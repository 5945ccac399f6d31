/-!
# Summaries of the command line

A command prints one summary: an object whose entries stand on lines of their own, two blanks
further in for each level, in the order given.
-/

namespace HandleHeap.CommandLine

/-- A summary. The words in it hold no character that would have to be escaped. -/
inductive Summary
  | number (n : Nat)
  | flag (b : Bool)
  | word (text : String)
  | object (entries : List (String × Summary))

namespace Summary

mutual

/-- The text of a summary that starts `depth` levels in. -/
def renderAt (depth : Nat) : Summary → String
  | number n => toString n
  | flag b => toString b
  | word text => "\"" ++ text ++ "\""
  | object entries =>
    "\x7b\n" ++ renderEntries (depth + 1) entries ++ String.ofList (List.replicate (2 * depth) ' ')
      ++ "\x7d"

/-- The lines of the entries of an object. -/
def renderEntries (depth : Nat) : List (String × Summary) → String
  | [] => ""
  | (key, entry) :: rest =>
    String.ofList (List.replicate (2 * depth) ' ') ++ "\"" ++ key ++ "\": " ++
      renderAt depth entry ++ (if rest.isEmpty then "\n" else ",\n") ++ renderEntries depth rest

end

/-- The text of a summary, with a line end. -/
def render (summary : Summary) : String := renderAt 0 summary ++ "\n"

end Summary

end HandleHeap.CommandLine
