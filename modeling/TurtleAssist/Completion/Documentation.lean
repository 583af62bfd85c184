/-!
# Documentation of completions

Each completion carries a short text in Markdown: what it is, where to read
more, where to report a mistake, and sometimes a notice.
-/

namespace TurtleAssist

/-- Where the commands are described. -/
def commandsUrl : String :=
  "https://github.com/EmilyGraceSeville7cf/tinyscheme-turtle?tab=readme-ov-file#configuration-script-commands"

/-- Where the configuration variables are described. -/
def variablesUrl : String :=
  "https://github.com/EmilyGraceSeville7cf/tinyscheme-turtle?tab=readme-ov-file#usage"

/-- Where the keywords are described. -/
def schemeUrl : String :=
  "https://conservatory.scheme.org/schemers/Documents/Standards/R5RS/HTML/"

/-- Where words are explained. -/
def wordsUrl : String :=
  "https://translate.google.ca/?sl=auto&tl=en&op=translate"

/-- Where mistakes are reported. -/
def issuesUrl : String :=
  "https://github.com/EmilyGraceSeville7cf/tinyscheme-turtle/issues"

/-- The notice on what was found in a document. -/
def inaccuracyNotice : String :=
  "Suggestions may be inaccurate because they are RegExp-based, "
    ++ "we are working on the LSP server to provide the best experience"

/-- A text followed by its links and, if there is one, a notice. -/
def documentation (text readMore : String) (notice : Option String) : String :=
  text ++ "\n\n[Read more](" ++ readMore ++ ") |\n[Is something incorrect?](" ++ issuesUrl ++ ")"
    ++ match notice with
      | some notice => "\n\n*Notice: " ++ notice ++ "*."
      | none => ""

end TurtleAssist
