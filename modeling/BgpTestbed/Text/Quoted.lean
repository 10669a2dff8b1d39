import BgpTestbed.Text.Glyphless

/-!
# Quoted text in messages

Messages show a text between double quotes such that every character stays
visible: the usual short escapes, and the hexadecimal number of a character
that has no glyph of its own.
-/

namespace BgpTestbed.Text

/-- The number of a character in lower-case hexadecimal digits. -/
def hexNumber (character : Char) : String :=
  String.ofList (Nat.toDigits 16 character.toNat)

def quotedChar (character : Char) : String :=
  match character with
  | '\x00' => "\\0"
  | '\t' => "\\t"
  | '\n' => "\\n"
  | '\r' => "\\r"
  | '"' => "\\\""
  | '\\' => "\\\\"
  | _ =>
      if isGlyphless character then "\\u\x7b" ++ hexNumber character ++ "\x7d"
      else String.singleton character

def quoted (text : String) : String :=
  "\"" ++ String.join (text.toList.map quotedChar) ++ "\""

end BgpTestbed.Text
