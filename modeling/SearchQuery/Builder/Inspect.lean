import SearchQuery.Builder.Basic
import SearchQuery.Text.Unseen

/-! # Showing builders

  `FilterBuilder.inspect` lists the fragments of a builder one by one, each between
  quotes. A character that is not seen is given by its code point in hexadecimal.
-/

namespace SearchQuery

/-- A character as it is shown between quotes. -/
def showChar (c : Char) : List Char :=
  match c with
  | '"' => ['\\', '"']
  | '\\' => ['\\', '\\']
  | '\n' => ['\\', 'n']
  | '\r' => ['\\', 'r']
  | '\t' => ['\\', 't']
  | '\x00' => ['\\', '0']
  | c =>
    if isUnseen c then ['\\', 'u', '\x7b'] ++ Nat.toDigits 16 c.toNat ++ ['\x7d'] else [c]

/-- A text as it is shown, between quotes. -/
def shown (text : String) : String :=
  String.ofList ('"' :: text.toList.flatMap showChar ++ ['"'])

/-- The fragments of a builder, as they are shown. -/
def FilterBuilder.inspect (b : FilterBuilder) : String :=
  "FilterBuilder \x7b fragments: [" ++ String.intercalate ", " (b.fragments.map shown) ++ "] \x7d"

end SearchQuery
