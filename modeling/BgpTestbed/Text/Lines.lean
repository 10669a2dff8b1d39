/-!
# Lines of text

`ofLines` ends every line with a newline, and `lines` takes a text apart
again.  A carriage return counts as part of the ending only directly before
the newline, so a last line without a newline keeps its carriage return.
-/

namespace BgpTestbed.Text

/-- The text in which every line is followed by a newline. -/
def ofLines (lines : List String) : String :=
  String.join (lines.map (· ++ "\n"))

/-- Lines as lists of characters; nothing follows a final newline. -/
def lineChars : List Char → List (List Char)
  | [] => []
  | '\n' :: rest => [] :: lineChars rest
  | '\r' :: '\n' :: rest => [] :: lineChars rest
  | character :: rest =>
      match lineChars rest with
      | [] => [[character]]
      | line :: later => (character :: line) :: later

def lines (text : String) : List String :=
  (lineChars text.toList).map String.ofList

theorem ofLines_nil : ofLines [] = "" := rfl

theorem ofLines_cons (line : String) (later : List String) :
    ofLines (line :: later) = line ++ "\n" ++ ofLines later := by
  simp [ofLines, String.join_cons]

theorem ofLines_append (first second : List String) :
    ofLines (first ++ second) = ofLines first ++ ofLines second := by
  simp [ofLines, String.join_append]

end BgpTestbed.Text
