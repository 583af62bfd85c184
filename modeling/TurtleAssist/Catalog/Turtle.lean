import TurtleAssist.Catalog.Basic

/-!
# The turtle language

The built-in catalog: the commands of the turtle with their arguments, the
keywords and the annotations of comments, and the two configuration variables.
-/

namespace TurtleAssist.Catalog

/-- The commands that move the turtle. -/
def movements : List Command :=
  [ { name := "move-on", description := "Move the turtle **on** a specific vector",
      args := ["x", "y"] },
    { name := "move-to", description := "Move the turtle **to** a specific point",
      args := ["x", "y"] },
    { name := "move-forward",
      description := "Move the turtle **forward** for a specific amount of units",
      args := ["units"], shortcut := some "f", opposite := some "move-backward" },
    { name := "move-backward",
      description := "Move the turtle **backward** for a specific amount of units",
      args := ["units"], shortcut := some "b", opposite := some "move-forward" },
    { name := "move-to-center", description := "Move the turtle to the **center**" },
    { name := "move-to-top-left", description := "Move the turtle to the **top left corner**" },
    { name := "move-to-top-middle", description := "Move the turtle to the **top middle side**" },
    { name := "move-to-top-right", description := "Move the turtle to the **top right corner**" },
    { name := "move-to-middle-right",
      description := "Move the turtle to the **middle right side**" },
    { name := "move-to-bottom-right",
      description := "Move the turtle to the **bottom right corner**" },
    { name := "move-to-bottom-middle",
      description := "Move the turtle to the **bottom middle side**" },
    { name := "move-to-bottom-left",
      description := "Move the turtle to the **bottom left corner**" },
    { name := "move-to-middle-left",
      description := "Move the turtle to the **middle left side**" } ]

/-- The commands that turn the turtle. -/
def rotations : List Command :=
  [ { name := "turn-left",
      description := "Rotate the turtle **left** at a specific amount of degrees",
      args := ["angle"], shortcut := some "l", opposite := some "turn-right" },
    { name := "turn-right",
      description := "Rotate the turtle **right** at a specific amount of degrees",
      args := ["angle"], shortcut := some "r", opposite := some "turn-left" } ]

/-- The commands that lift and lower the pen. -/
def penCommands : List Command :=
  [ { name := "up", description := "Make turtle **not draw** on movements",
      opposite := some "down" },
    { name := "down", description := "Make turtle **draw** on movements", opposite := some "up" } ]

/-- The commands that choose the drawing color. -/
def colorCommands : List Command :=
  [ { name := "black", description := "Change the turtle drawing color to **black**" },
    { name := "red", description := "Change the turtle drawing color to **red**" },
    { name := "green", description := "Change the turtle drawing color to **green**" },
    { name := "yellow", description := "Change the turtle drawing color to **yellow**" },
    { name := "blue", description := "Change the turtle drawing color to **blue**" },
    { name := "magenta", description := "Change the turtle drawing color to **magenta**" },
    { name := "cyan", description := "Change the turtle drawing color to **cyan**" },
    { name := "gray", description := "Change the turtle drawing color to **gray**" },
    { name := "random-color",
      description := "Change the turtle drawing color to a **random one**" },
    { name := "rgb", description := "Change the turtle drawing color to a **specific one**",
      args := ["red", "green", "blue"] },
    { name := "rgb-random-color",
      description := "Change the turtle drawing color to a **random one**" } ]

/-- The keywords, those of comments last. -/
def turtleKeywords : List Keyword :=
  [ { name := "if", description := "**Check** whether a specific condition is true",
      body := "$\x7b1:condition\x7d $\x7b2:then\x7d $\x7b3:else\x7d" },
    { name := "define", description := "**Define** a variable with a specific value",
      body := "$\x7b1:variable\x7d $\x7b2:value\x7d", shortcut := some "d" },
    { name := "set!", description := "**Set** a specific value to a variable",
      body := "$\x7b1:variable\x7d $\x7b2:value\x7d" },
    { name := "let*", description := "**Define** variables with specific values",
      body := "(($\x7b1:variable\x7d $\x7b2:value\x7d)) $\x7b3:commands\x7d" },
    { name := "begin", description := "**Group** specific commands",
      body := "$\x7b1:commands\x7d" },
    .inComment "@author" "Define a code **author**" "- $\x7b1:author\x7d",
    .inComment "@description" "Define a code **description**" "- $\x7b1:description\x7d",
    .inComment "@year" "Define a code **year**" "- $\x7b1:year\x7d",
    .inComment "@signature" "Define a specific function **signature**"
      "- $\x7b1:function\x7d $\x7b2:types\x7d" ]

/-- The configuration variables. -/
def turtleVariables : List Variable :=
  [ { name := "turtle-configuration", description := "A **drawing** code", shortcut := some "c" },
    { name := "turtle-theme", description := "A **theme** code" } ]

/-- The catalog of the turtle language. -/
def turtle : Catalog where
  commands := movements ++ rotations ++ penCommands ++ colorCommands
  keywords := turtleKeywords
  configVariables := turtleVariables

example : turtle.commands.length = 28 := rfl

end TurtleAssist.Catalog
