import Gamebook.Files.Load
import Gamebook.Proofs.Format
import Gamebook.Proofs.Json.Truncation
import Gamebook.Proofs.Ron.Truncation

/-!
# Documents that are cut short

A serialized adventure without its end is no document, in neither notation: parsing refuses it for its syntax
(`parse_cut`), and never comes to ask whether it holds an adventure. So no document passes for another one
because its end is missing.

That a text is refused is one half of this, and for which reason the other. A cut goes through the middle of
something, and what is left of that may have a meaning of its own: of a number a smaller one, of a list of passages a
shorter one, of an option nothing. None of them is ever looked at as such. In RON the text is first read for its
syntax alone, and that fails; in JSON both are read at once, and it has to be shown that nothing before the cut is
wrong with the document and that the reader fails at the cut for want of more. The modules on each notation carry this
through all shapes, as one statement about what a reader makes of any beginning of a printed text.

A file is cut in its bytes, and the cut may fall inside a character. What is left is no text then. If it is one, it is
the text that was to be written, without its end (`cut_of_bytes`): two texts one of whose bytes begin those of the
other begin each other, since the bytes that are missing are a text by themselves (`isValidUTF8_append_iff`).
-/

namespace Gamebook

open Text

/-! ## Texts

Each notation has its own grammar and its own reason why a text without its end is refused: what is left open is found
out in RON by the pass that goes over the text first, and in JSON by the one reader there is. Both reasons come out as
a fault of syntax with a position, and that is all that is needed from here on. -/

section Texts

variable {cut : String}

theorem ronDocument_cut (a : Adventure) (hcut : Cut cut.toList (serialize .ron a).toList) :
    ∃ position message, ronDocument cut = .error (.parse position message) := by
  obtain ⟨⟨fault, position⟩, hrun⟩ :=
    Ron.run_skipText_cut adventureShape_wellNamed (by decide) (documentOf a) hcut
  refine ⟨ronPosition position, fault.message, ?_⟩
  rw [ronDocument, hrun]
  rfl

theorem jsonDocument_cut (a : Adventure) (hcut : Cut cut.toList (serialize .json a).toList) :
    ∃ position message, jsonDocument cut = .error (.parse position message) := by
  have hspells : Json.Spells (Json.tree adventureShape (documentOf a)) (serialize .json a).toList :=
    Json.spells_writeText adventureShape (documentOf a)
  obtain ⟨refusal, hread, hbroken⟩ :=
    Json.readText_cut adventureShape_wellNamed false (documentOf a) hspells hcut
  refine ⟨refusal.position, refusal.message, ?_⟩
  rw [jsonDocument, hread]
  simp only [hbroken, Bool.false_eq_true, if_false]

/-- A serialized adventure without its end is refused for its syntax, with the place at which the text ends too
early or goes wrong. -/
theorem parse_cut (format : Format) (a : Adventure) (hcut : Cut cut.toList (serialize format a).toList) :
    ∃ position message, parse format cut = .error (.parse position message) := by
  have hdocument : ∃ position message, documentOfText format cut = .error (.parse position message) := by
    cases format with
    | ron => exact ronDocument_cut a hcut
    | json => exact jsonDocument_cut a hcut
  obtain ⟨position, message, hdocument⟩ := hdocument
  refine ⟨position, message, ?_⟩
  rw [parse, hdocument]
  rfl

theorem cut_of_append {part rest text : String} (h : part ++ rest = text) (hrest : rest ≠ "") :
    Cut part.toList text.toList := by
  refine ⟨rest.toList, fun hnil => hrest (String.toList_eq_nil_iff.mp hnil), ?_⟩
  rw [← String.toList_append, h]

end Texts

/-! ## Bytes

A file is cut between bytes and not between characters. If the cut goes through a character, what is left is no text
and is refused as that; otherwise it is a text without its end, to which the first part applies. -/

/-- Behind the bytes of a text, further bytes are those of a text if all are. -/
theorem isValidUTF8_append_iff (part : String) (lost : ByteArray) :
    (part.toByteArray ++ lost).IsValidUTF8 ↔ lost.IsValidUTF8 := by
  -- Character by character: the bytes of one tell where the next one begins.
  have hchars : ∀ cs : List Char, (cs.utf8Encode ++ lost).IsValidUTF8 ↔ lost.IsValidUTF8 := by
    intro cs
    induction cs with
    | nil => rw [List.utf8Encode_nil, ByteArray.empty_append]
    | cons c cs ih =>
      rw [List.utf8Encode_cons, ByteArray.append_assoc,
        ByteArray.isValidUTF8_utf8Encode_singleton_append_iff, ih]
  rw [← String.utf8Encode_toList]
  exact hchars part.toList

/-- If some first bytes of a text are those of a text, it is the one without its end. -/
theorem cut_of_bytes {part text : String} {lost : ByteArray} (h : part.toByteArray ++ lost = text.toByteArray)
    (hlost : lost ≠ .empty) : Cut part.toList text.toList := by
  have hvalid : lost.IsValidUTF8 := by
    rw [← isValidUTF8_append_iff part lost, h]
    exact text.isValidUTF8
  have happend : part ++ String.fromUTF8 lost hvalid = text := by
    rw [← String.toByteArray_inj, String.toByteArray_append]
    exact h
  refine cut_of_append happend fun hempty => hlost ?_
  exact congrArg String.toByteArray hempty

namespace Files

/-- The first bytes of a text are no text, or the text without its end. -/
theorem Content.ofBytes_cut {text : String} {bytes lost : ByteArray} (h : bytes ++ lost = text.toUTF8)
    (hlost : lost ≠ .empty) :
    Content.ofBytes bytes = .binary bytes.toList ∨
      ∃ part, Content.ofBytes bytes = .text part ∧ Cut part.toList text.toList := by
  unfold Content.ofBytes String.fromUTF8?
  by_cases hvalid : bytes.IsValidUTF8
  · rw [dif_pos hvalid]
    exact .inr ⟨.fromUTF8 bytes hvalid, rfl, cut_of_bytes h hlost⟩
  · rw [dif_neg hvalid]
    exact .inl rfl

end Files

/-! ## Documents -/

/-- **A document that is cut short is never accepted.** Every text that lacks the end of a serialized adventure, if
only its last character, is refused for its syntax: it is neither parsed nor found to be of the wrong shape. A file
that holds the first bytes only of what was to be saved there is not loaded, since it holds no text, or one of
those. The adventure is any, also one with a zero in it that could not be read back if it were whole. -/
theorem truncated_text_is_no_document (a : Adventure) :
    (∀ (format : Format) (part rest : String), part ++ rest = serialize format a → rest ≠ "" →
      ∃ position message, parse format part = .error (.parse position message)) ∧
    ∀ (root : Files.Directory) (path : String) (bytes lost : ByteArray),
      bytes ++ lost = (serialize (Files.formatOf path) a).toUTF8 → lost ≠ .empty →
      root.find path = .ok (.file (.ofBytes bytes)) →
        Files.load root path = .error (.file .notText) ∨
        ∃ position message, Files.load root path = .error (.format (.parse position message)) := by
  constructor
  · intro format part rest happend hrest
    exact parse_cut format a (cut_of_append happend hrest)
  · intro root path bytes lost hbytes hlost hfind
    unfold Files.load Files.Directory.readPath
    rw [hfind]
    rcases Files.Content.ofBytes_cut hbytes hlost with hbinary | ⟨part, htext, hcut⟩
    · rw [hbinary]
      exact .inl rfl
    · rw [htext]
      obtain ⟨position, message, hparse⟩ := parse_cut (Files.formatOf path) a hcut
      refine .inr ⟨position, message, ?_⟩
      show (parse (Files.formatOf path) part).mapError Files.LoadError.format = _
      rw [hparse]
      rfl

/-- A draft that has a title and nothing else yet. -/
def Adventure.fog : Adventure where
  title := "Fog – \"é\""
  introduction := []
  items := []
  passages := []

/-- The draft is cut inside an escape, before its last bracket, and inside the dash of its title. -/
theorem fog_cut_short :
    (∃ position message, parse .json "\x7b\n  \"metadata\": \x7b\n    \"title\": \"Fog – \\" =
      .error (.parse position message)) ∧
    (∃ position message, parse .ron ("(\n    metadata: (\n        title: \"Fog – \\\"é\\\"\",\n    ),\n" ++
      "    items: [],\n    introduction: (\n        paragraphs: [],\n    ),\n    passages: [],\n") =
      .error (.parse position message)) ∧
    let root : Files.Directory :=
      [("fog.ron", .file (.ofBytes ((serialize .ron .fog).toUTF8.extract 0 40)))]
    Files.load root "fog.ron" = .error (.file .notText) ∨
      ∃ position message, Files.load root "fog.ron" = .error (.format (.parse position message)) := by
  have hescape : "\x7b\n  \"metadata\": \x7b\n    \"title\": \"Fog – \\" ++
      ("\"é\\\"\"\n  \x7d,\n  \"items\": [],\n  \"introduction\": \x7b\n    \"paragraphs\": []\n  \x7d,\n" ++
        "  \"passages\": []\n\x7d") = serialize .json .fog := by decide +kernel
  have hbracket : ("(\n    metadata: (\n        title: \"Fog – \\\"é\\\"\",\n    ),\n" ++
      "    items: [],\n    introduction: (\n        paragraphs: [],\n    ),\n    passages: [],\n") ++ ")" =
      serialize .ron .fog := by decide +kernel
  have hformat : Files.formatOf "fog.ron" = .ron := by decide +kernel
  have hsize : 40 < (serialize .ron .fog).toUTF8.size := by decide +kernel
  have hpath : Files.Directory.pathFault? "fog.ron" = none := by decide +kernel
  have hsteps : Files.steps "fog.ron" = [.into "fog.ron"] := by decide +kernel
  have hname : Files.isTooLong "fog.ron" = false := by decide +kernel
  have hfind : ∀ content, Files.Directory.find [("fog.ron", .file content)] "fog.ron" =
      .ok (.file content) := by
    intro content
    simp [Files.Directory.find, Files.Directory.resolve, Files.Directory.follow, Files.Directory.followFrom,
      Files.Directory.at?, hpath, hsteps, hname, Table.get?, bind, Except.bind, pure, Except.pure]
  have hparts : ∀ bytes : ByteArray, 40 < bytes.size →
      bytes.extract 0 40 ++ bytes.extract 40 bytes.size = bytes ∧ bytes.extract 40 bytes.size ≠ .empty := by
    intro bytes hlarge
    refine ⟨?_, fun hempty => ?_⟩
    · rw [← ByteArray.extract_eq_extract_append_extract 40 (by omega) (by omega), ByteArray.extract_zero_size]
    · have hzero : min bytes.size bytes.size - 40 = 0 := by
        rw [← ByteArray.size_extract, hempty, ByteArray.size_empty]
      omega
  obtain ⟨htexts, hfiles⟩ := truncated_text_is_no_document .fog
  refine ⟨htexts .json _ _ hescape (by decide), htexts .ron _ _ hbracket (by decide), ?_⟩
  obtain ⟨hbytes, hlost⟩ := hparts _ hsize
  exact hfiles _ "fog.ron" _ _ (by rw [hformat, hbytes]) hlost (hfind _)

end Gamebook
