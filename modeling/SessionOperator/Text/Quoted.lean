import SessionOperator.Text.CharClass

/-!
# Quoted texts

The unambiguous form in which messages show texts that they do not control: between quotes, with quotes,
backslashes, line breaks, tabs and zeros escaped by a letter, and every character that has no printed form of its
own or extends its neighbour by its code point.
-/

namespace SessionOperator

namespace Text

def codePointEscape (c : Char) : List Char :=
  ['\\', 'u', '\x7b'] ++ Nat.toDigits 16 c.toNat ++ ['\x7d']

def quoteChar (c : Char) : List Char :=
  match c with
  | '\x00' => ['\\', '0']
  | '\t' => ['\\', 't']
  | '\r' => ['\\', 'r']
  | '\n' => ['\\', 'n']
  | '\\' => ['\\', '\\']
  | '"' => ['\\', '"']
  | c => if isExtending c || isUnprintable c then codePointEscape c else [c]

def quoted (s : String) : String := "\"" ++ String.ofList (s.toList.flatMap quoteChar) ++ "\""

end Text

end SessionOperator
