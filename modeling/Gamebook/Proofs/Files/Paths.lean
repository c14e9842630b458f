import Gamebook.Files.Tree
import Gamebook.Proofs.FileNames
import Mathlib.Data.List.Chain
import Mathlib.Data.List.TakeWhile
import Mathlib.Data.String.Basic
import Mathlib.Tactic.Tauto

/-!
# Paths and the paths above them

Of the steps of a path only those count that go somewhere, its moves: empty parts and single dots stand for the place
where they are. A path that is made from the parts that count leads to the same place, if the place is a directory, and
need not be the same text.

To provide a directory is to try it first, and then, where it is not found, the directories above it, from the nearest
up. The paths above a path are made of its parts that count, one less each time (`pathsAbove_isChain`), and that is
how the program cuts a path. A part that is a step up counts too, so the path above a path need not lead to the
directory in which the place stands; it is what the parts without the last lead to.

Where a path leads somewhere at all, so may those above it: they are not longer, and have no new characters
(`pathFault?_pathOf`). This is a matter of lists: the parts of the one are some of the parts of the other, and so the
characters of the one are some of the characters of the other (`intercalate_sublist`). Cutting a text at separators and
putting it together again are inverse to each other where the parts hold no separator; the first section is about that.
-/

namespace Gamebook.Files

/-! ## Parts put together

To split a text at a separator and to put the parts together again undo each other, the one always, the other if there
are parts and none of them holds the separator. That is what lets a path be taken apart, shortened and written again.
-/

section Parts

variable {separator : Char} {part : List Char} {parts others : List (List Char)}

theorem intercalate_cons (s part : List Char) (h : parts ≠ []) :
    s.intercalate (part :: parts) = part ++ (s ++ s.intercalate parts) := by
  obtain ⟨next, parts, rfl⟩ := List.exists_cons_of_ne_nil h
  simp [List.intercalate, List.intersperse]

theorem not_mem_of_mem_splitAt {xs : List Char} (h : part ∈ splitAt separator xs) : separator ∉ part := by
  induction xs generalizing part with
  | nil =>
    obtain rfl := List.mem_singleton.mp h
    exact List.not_mem_nil
  | cons c xs ih =>
    rw [splitAt] at h
    by_cases hc : c = separator
    · rw [if_pos hc] at h
      rcases List.mem_cons.mp h with rfl | h
      · exact List.not_mem_nil
      · exact ih h
    · rw [if_neg hc] at h
      obtain ⟨first, others, hsplit⟩ := List.exists_cons_of_ne_nil (splitAt_ne_nil separator xs)
      rw [hsplit] at h ih
      rcases List.mem_cons.mp h with rfl | h
      · rw [List.mem_cons, not_or]
        exact ⟨Ne.symm hc, ih List.mem_cons_self⟩
      · exact ih (List.mem_cons_of_mem _ h)

/-- The parts of a text, put together, are the text. -/
theorem intercalate_splitAt (separator : Char) (xs : List Char) :
    [separator].intercalate (splitAt separator xs) = xs := by
  induction xs with
  | nil => rfl
  | cons c xs ih =>
    rw [splitAt]
    by_cases hc : c = separator
    · rw [if_pos hc, intercalate_cons _ _ (splitAt_ne_nil separator xs), ih, hc]
      rfl
    · rw [if_neg hc]
      obtain ⟨first, others, hsplit⟩ := List.exists_cons_of_ne_nil (splitAt_ne_nil separator xs)
      rw [hsplit] at ih ⊢
      rw [← ih]
      cases others with
      | nil => simp [List.intercalate]
      | cons next others => simp [List.intercalate, List.intersperse]

/-- What comes before the first separator is the first part. -/
theorem splitAt_append (h : separator ∉ part) (xs : List Char) :
    splitAt separator (part ++ separator :: xs) = part :: splitAt separator xs := by
  induction part with
  | nil => rw [List.nil_append, splitAt, if_pos rfl]
  | cons c cs ih =>
    rw [List.mem_cons, not_or] at h
    rw [List.cons_append, splitAt, if_neg (Ne.symm h.1), ih h.2]

theorem splitAt_intercalate (hparts : parts ≠ []) (h : ∀ part ∈ parts, separator ∉ part) :
    splitAt separator ([separator].intercalate parts) = parts := by
  induction parts with
  | nil => exact absurd rfl hparts
  | cons part parts ih =>
    have hpart : separator ∉ part := h part List.mem_cons_self
    by_cases hrest : parts = []
    · subst hrest
      rw [List.intercalate_singleton]
      exact splitAt_of_not_mem hpart
    · rw [intercalate_cons _ _ hrest]
      show splitAt separator (part ++ separator :: [separator].intercalate parts) = _
      rw [splitAt_append hpart, ih hrest fun part hmem => h part (List.mem_cons_of_mem _ hmem)]

/-- Some of the parts, put together, are some of the characters. -/
theorem intercalate_sublist (s : List Char) (h : parts.Sublist others) :
    (s.intercalate parts).Sublist (s.intercalate others) := by
  induction h with
  | slnil => exact List.Sublist.refl _
  | @cons parts others part hsub ih =>
    by_cases hothers : others = []
    · subst hothers
      obtain rfl := List.sublist_nil.mp hsub
      exact List.nil_sublist _
    · rw [intercalate_cons _ _ hothers]
      exact ih.trans ((List.sublist_append_right ..).trans (List.sublist_append_right ..))
  | @cons_cons parts others part hsub ih =>
    by_cases hparts : parts = []
    · subst hparts
      by_cases hothers : others = []
      · rw [hothers]
      · rw [intercalate_cons _ _ hothers, List.intercalate_singleton]
        exact List.sublist_append_left ..
    · have hothers : others ≠ [] := by
        rintro rfl
        exact hparts (List.sublist_nil.mp hsub)
      rw [intercalate_cons _ _ hparts, intercalate_cons _ _ hothers]
      exact (List.Sublist.refl part).append ((List.Sublist.refl s).append ih)

end Parts

/-! ## The moves of a path

Empty parts and single dots go nowhere, and so they do not count when two paths are compared. What is left of a path is
its moves, and the moves alone say where it leads. -/

/-- The steps of a path that go somewhere. -/
def moves (path : String) : List Step := (nameParts path).map Step.ofPart

section Moves

variable {path : String} {part : List Char}

theorem mem_nameParts (h : part ∈ nameParts path) : '/' ∉ part ∧ part ≠ [] ∧ part ≠ ['.'] := by
  obtain ⟨hsplit, hcounts⟩ := List.mem_filter.mp h
  have hcounts : part ≠ [] ∧ part ≠ ['.'] := of_decide_eq_true hcounts
  exact ⟨not_mem_of_mem_splitAt hsplit, hcounts⟩

/-- The parts that go nowhere are those that do not count. -/
theorem filter_map_ofPart (parts : List (List Char)) :
    (parts.map Step.ofPart).filter (· ≠ .here) =
      (parts.filter fun part => part ≠ [] ∧ part ≠ ['.']).map Step.ofPart := by
  rw [List.filter_map]
  refine congrArg _ (List.filter_congr fun part _ => decide_eq_decide.mpr ?_)
  show Step.ofPart part ≠ .here ↔ _
  rw [← not_or]
  unfold Step.ofPart
  by_cases hskipped : part = [] ∨ part = ['.']
  · simp [hskipped]
  · by_cases hdots : part = ['.', '.']
    · simp [hdots]
    · simp [hskipped, hdots]

theorem filter_steps (path : String) : (steps path).filter (· ≠ .here) = moves path :=
  filter_map_ofPart (splitAt '/' path.toList)

/-- Slashes at the end make no difference to what counts. -/
theorem nameParts_withoutTrailingSlashes (path : String) :
    nameParts (Directory.withoutTrailingSlashes path) = nameParts path := by
  have hslashes : ∀ (count : Nat) (xs : List Char),
      (splitAt '/' (xs ++ List.replicate count '/')).filter (fun part => part ≠ [] ∧ part ≠ ['.']) =
        (splitAt '/' xs).filter fun part => part ≠ [] ∧ part ≠ ['.'] := by
    intro count xs
    induction count with
    | zero => simp
    | succ count ih =>
      rw [List.replicate_succ', ← List.append_assoc, splitAt_append_cons List.not_mem_nil,
        List.filter_append, ih]
      simp
  -- The text is the one without the slashes at its end, and then these.
  have htext : path.toList = (path.toList.reverse.dropWhile (· = '/')).reverse ++
      List.replicate (path.toList.reverse.takeWhile (· = '/')).length '/' := by
    have hsame : ∀ c ∈ path.toList.reverse.takeWhile (· = '/'), c = '/' := by
      intro c hc
      simpa using List.mem_takeWhile_imp hc
    rw [← List.reverse_replicate, ← List.eq_replicate_of_mem hsame, ← List.reverse_append,
      List.takeWhile_append_dropWhile, List.reverse_reverse]
  rw [nameParts, nameParts, Directory.withoutTrailingSlashes, String.toList_ofList, htext, hslashes,
    ← htext]

end Moves

/-! ## Paths above

The path above another is found by taking its last part away, with the slashes and dots around it. It is enough to know
of it which parts it has that count, and that it can be asked for if the first one can. -/

/-- The path of some parts, which may begin with a slash. -/
def pathOf (opening : List Char) (parts : List (List Char)) : String :=
  String.ofList (opening ++ ['/'].intercalate parts)

/-- A path is the one next above another: it has the same parts that count, without the last. -/
structure Above (path above : String) : Prop where
  parts : nameParts above = (nameParts path).dropLast
  leads : Directory.pathFault? path = none → Directory.pathFault? above = none

section Above

variable {path : String} {opening : List Char} {parts : List (List Char)}

theorem nameParts_pathOf (hopening : opening = [] ∨ opening = ['/'])
    (h : ∀ part ∈ parts, '/' ∉ part ∧ part ≠ [] ∧ part ≠ ['.']) : nameParts (pathOf opening parts) = parts := by
  have hall : parts.filter (fun part => part ≠ [] ∧ part ≠ ['.']) = parts :=
    List.filter_eq_self.mpr fun part hpart => decide_eq_true (h part hpart).2
  have hplain : (splitAt '/' (['/'].intercalate parts)).filter (fun part => part ≠ [] ∧ part ≠ ['.']) =
      parts := by
    by_cases hparts : parts = []
    · subst hparts
      rfl
    · rw [splitAt_intercalate hparts fun part hpart => (h part hpart).1, hall]
  rw [nameParts, pathOf, String.toList_ofList]
  rcases hopening with rfl | rfl
  · exact hplain
  · rw [List.cons_append, List.nil_append, splitAt, if_pos rfl, List.filter_cons_of_neg (by simp), hplain]

theorem pathFault?_eq_none_iff : Directory.pathFault? path = none ↔
    '\x00' ∉ path.toList ∧ isLongPath path = false ∧ path ≠ "" ∧ path.toList.head? ≠ some '/' := by
  unfold Directory.pathFault?
  by_cases hzero : '\x00' ∈ path.toList
  · simp [hzero]
  · by_cases hlong : isLongPath path = true
    · simp [hzero, hlong]
    · simp [hzero, hlong]

/-- A path that leads somewhere does not become one that leads nowhere by leaving out parts at its end, unless
none is left. -/
theorem pathFault?_pathOf (h : Directory.pathFault? path = none) (hparts : parts ≠ [])
    (hsub : parts.Sublist (nameParts path)) : Directory.pathFault? (pathOf [] parts) = none := by
  have hchars : (pathOf [] parts).toList.Sublist path.toList := by
    rw [pathOf, List.nil_append, String.toList_ofList]
    conv => rhs; rw [← intercalate_splitAt '/' path.toList]
    exact intercalate_sublist _ (hsub.trans List.filter_sublist)
  obtain ⟨hzero, hlong, -, -⟩ := pathFault?_eq_none_iff.mp h
  obtain ⟨first, parts, rfl⟩ := List.exists_cons_of_ne_nil hparts
  obtain ⟨hslash, hfirst, -⟩ := mem_nameParts (hsub.subset List.mem_cons_self)
  obtain ⟨c, cs, rfl⟩ := List.exists_cons_of_ne_nil hfirst
  have htext : ∃ rest, (pathOf [] ((c :: cs) :: parts)).toList = c :: rest := by
    rw [pathOf, List.nil_append, String.toList_ofList]
    by_cases hrest : parts = []
    · subst hrest
      exact ⟨cs, List.intercalate_singleton⟩
    · exact ⟨_, intercalate_cons _ _ hrest⟩
  obtain ⟨rest, htext⟩ := htext
  refine pathFault?_eq_none_iff.mpr ⟨fun hmem => hzero (hchars.subset hmem), ?_, ?_, ?_⟩
  · have hsize : (pathOf [] ((c :: cs) :: parts)).utf8ByteSize ≤ path.utf8ByteSize := by
      rw [← String.ofList_toList (s := pathOf [] ((c :: cs) :: parts)), ← String.ofList_toList (s := path),
        String.utf8ByteSize_ofList, String.utf8ByteSize_ofList]
      exact String.utf8Len_le_of_sublist hchars
    rw [isLongPath, decide_eq_false_iff_not] at hlong ⊢
    omega
  · intro hempty
    rw [hempty] at htext
    cases htext
  · rw [htext]
    rintro ⟨⟩
    exact hslash List.mem_cons_self

/-- **Every path above a path is the next one above the one before it.** Each has one part less that counts, and
may lead somewhere if the path itself may. -/
theorem pathsAbove_isChain (path : String) : List.IsChain Above (path :: pathsAbove path) := by
  have hopening : (if path.toList.head? = some '/' then ['/'] else []) = ([] : List Char) ∨
      (if path.toList.head? = some '/' then ['/'] else []) = ['/'] := by
    split
    · exact .inr rfl
    · exact .inl rfl
  show List.IsChain Above (path :: (((List.range (nameParts path).length).filter (0 < ·)).reverse.map
    fun count => pathOf _ ((nameParts path).take count)))
  generalize hopen : (if path.toList.head? = some '/' then ['/'] else []) = opening at hopening
  have habsolute : ∀ parts, opening = ['/'] → Directory.pathFault? (pathOf opening parts) ≠ none := by
    rintro parts rfl hnone
    exact (pathFault?_eq_none_iff.mp hnone).2.2.2 (by simp [pathOf])
  -- By induction on the number of parts that are left of a path.
  have hchain : ∀ (count : Nat) (first : String), count ≤ (nameParts path).length →
      nameParts first = (nameParts path).take count →
      (Directory.pathFault? first = none → opening = []) →
      List.IsChain Above (first :: (((List.range count).filter (0 < ·)).reverse.map
        fun count => pathOf opening ((nameParts path).take count))) := by
    intro count
    induction count with
    | zero =>
      intro first _ _ _
      exact List.isChain_singleton _
    | succ count ih =>
      intro first hcount hfirst hplain
      rw [List.range_succ, List.filter_append, List.reverse_append, List.map_append]
      by_cases hzero : count = 0
      · subst hzero
        exact List.isChain_singleton _
      · have hparts : nameParts (pathOf opening ((nameParts path).take count)) = (nameParts path).take count :=
          nameParts_pathOf hopening fun part hpart => mem_nameParts (List.mem_of_mem_take hpart)
        have hdrop : (nameParts first).dropLast = (nameParts path).take count := by
          rw [hfirst, List.dropLast_eq_take, List.length_take, List.take_take]
          congr 1
          omega
        rw [List.filter_cons_of_pos (by simpa using Nat.pos_of_ne_zero hzero)]
        refine List.isChain_cons_cons.mpr ⟨⟨hparts.trans hdrop.symm, fun hnone => ?_⟩, ?_⟩
        · dsimp only
          rw [hplain hnone, ← hdrop]
          refine pathFault?_pathOf hnone ?_ (List.dropLast_sublist _)
          rw [hdrop]
          intro hnil
          rcases List.take_eq_nil_iff.mp hnil with hnone | hnone
          · exact hzero hnone
          · rw [hnone] at hcount
            cases hcount
        · refine ih _ (by omega) hparts fun hnone => ?_
          rcases hopening with hnil | hslash
          · exact hnil
          · exact absurd hnone (habsolute _ hslash)
  refine hchain _ path (Nat.le_refl _) (List.take_length).symm fun hnone => ?_
  rw [← hopen, if_neg (pathFault?_eq_none_iff.mp hnone).2.2.2]

end Above

end Gamebook.Files
