import InlineCache.Text.Unprintable
import InlineCache.Text.Extending

/-!
# Quoted text

A text in double quotes, in which every character can be seen: the quote and the backslash are
escaped by a backslash, the common controls by a letter, and every other character that shows
nothing of its own, or that would attach to its neighbour, by its code point in braces. A single
quote stands for itself.

## Main definitions

* `escape`: the written form of a character
* `quoted`: the written form of a text
-/

namespace InlineCache.Text

/-- A code point in lower-case hexadecimal, in braces, with no zeros in front. -/
def escapePoint (c : Char) : List Char :=
  '\\' :: 'u' :: '\x7b' :: (Nat.toDigits 16 c.toNat ++ ['\x7d'])

/-- The written form of a character in a quoted text. -/
def escape (c : Char) : List Char :=
  match c with
  | '"' => ['\\', '"']
  | '\\' => ['\\', '\\']
  | '\n' => ['\\', 'n']
  | '\r' => ['\\', 'r']
  | '\t' => ['\\', 't']
  | '\x00' => ['\\', '0']
  | c => if isExtending c || isUnprintable c then escapePoint c else [c]

/-- The written form of a text. -/
def quoted (text : String) : String :=
  String.ofList ('"' :: text.toList.flatMap escape ++ ['"'])

example : quoted "it's \"so\"\t\x7f" = "\"it's \\\"so\\\"\\t\\u\x7b7f\x7d\"" := by
  decide +kernel

end InlineCache.Text
