import Playbook.Text.Printable

/-!
# Quoted text

A text between double quotes in which every character that cannot be seen is written as an escape.
-/

namespace Playbook.Text

def hexText (n : Nat) : String :=
  String.ofList (Nat.toDigits 16 n)

/-- How `c` is written between double quotes; a single quote is escaped only on demand. -/
def quoteChar (single : Bool) (c : Char) : String :=
  if c == '\x00' then "\\0"
  else if c == '\t' then "\\t"
  else if c == '\r' then "\\r"
  else if c == '\n' then "\\n"
  else if c == '\\' then "\\\\"
  else if c == '\"' then "\\\""
  else if c == '\'' && single then "\\'"
  else if isPrintable c then c.toString
  else "\\u\x7b" ++ hexText c.toNat ++ "\x7d"

def quoteWith (single : Bool) (text : String) : String :=
  "\"" ++ text.toList.foldl (fun out c ↦ out ++ quoteChar single c) "" ++ "\""

def quote (text : String) : String :=
  quoteWith false text

end Playbook.Text
