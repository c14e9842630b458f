import Gamebook.Player

/-!
# The demonstration

A short adventure that comes with the player.
-/

namespace Gamebook

/-- The lines of the demonstration. -/
def demoLines : List String := [
  "(",
  "    metadata: (",
  "        title: \"The Keeper's Lamp\",",
  "    ),",
  "    items: [",
  "        (id: \"matches\", name: \"Box of matches\"),",
  "        (id: \"oil\", name: \"Flask of lamp oil\"),",
  "        (id: \"key\", name: \"Iron key\"),",
  "    ],",
  "    introduction: (",
  "        paragraphs: [",
  "            \"A storm is rolling in over the bay, and the lighthouse on the point has gone dark.\",",
  "            \"The keeper has not been seen since morning. Someone has to light the lamp before the fishing boats come home.\",",
  "        ],",
  "    ),",
  "    passages: [",
  "        (",
  "            id: 1,",
  "            paragraphs: [",
  "                \"You stand at the foot of the lighthouse. Rain needles your face.\",",
  "                \"The front door hangs open. Beside it, a lean-to shed rattles in the wind.\",",
  "            ],",
  "            choices: [",
  "                (text: \"Go inside the lighthouse\", goto: 2),",
  "                (text: \"Search the shed\", goto: 3),",
  "            ],",
  "            notes: Some(\"Hub passage. Both branches rejoin at the stairs.\"),",
  "        ),",
  "        (",
  "            id: 2,",
  "            paragraphs: [",
  "                \"The keeper's room is cold. A kettle sits on a dead stove.\",",
  "                \"On the table lies a box of matches and an iron key on a string.\",",
  "            ],",
  "            effects: [",
  "                (type: \"addItem\", item: \"matches\"),",
  "                (type: \"addItem\", item: \"key\"),",
  "            ],",
  "            choices: [",
  "                (text: \"Climb the stairs\", goto: 4),",
  "                (text: \"Go back outside\", goto: 1),",
  "            ],",
  "        ),",
  "        (",
  "            id: 3,",
  "            paragraphs: [",
  "                \"The shed smells of tar and fish. A flask of lamp oil stands on a shelf.\",",
  "            ],",
  "            effects: [",
  "                (type: \"addItem\", item: \"oil\"),",
  "            ],",
  "            choices: [",
  "                (text: \"Head back to the lighthouse\", goto: 1),",
  "            ],",
  "        ),",
  "        (",
  "            id: 4,",
  "            paragraphs: [",
  "                \"The stairs spiral up into darkness. At the top, a locked hatch bars the way to the lamp room.\",",
  "            ],",
  "            choices: [",
  "                (text: \"Unlock the hatch and light the lamp\", goto: 5),",
  "                (text: \"Wait for the storm to pass\", goto: 6),",
  "            ],",
  "        ),",
  "        (",
  "            id: 5,",
  "            paragraphs: [",
  "                \"The hatch swings open. You fill the reservoir, strike a match, and the great lens blazes to life.\",",
  "                \"Far out on the water, a horn answers.\",",
  "            ],",
  "            effects: [",
  "                (type: \"removeItem\", item: \"oil\"),",
  "                (type: \"removeItem\", item: \"key\"),",
  "            ],",
  "            endingType: Some(\"victory\"),",
  "        ),",
  "        (",
  "            id: 6,",
  "            paragraphs: [",
  "                \"You sit on the cold steps and listen to the wind. By dawn the storm is gone, and so are two of the boats.\",",
  "            ],",
  "            endingType: Some(\"defeat\"),",
  "        ),",
  "    ],",
  ")"]

/-- The text of the demonstration. -/
def demoText : String := String.join (demoLines.map (· ++ "\n"))

/-- The player of the demonstration. -/
def Player.demo : Except PlayerError Player := Player.ofText "lighthouse" demoText "ron"

end Gamebook
