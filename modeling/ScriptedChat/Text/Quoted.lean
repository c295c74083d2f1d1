import ScriptedChat.Text.Invisible

/-!
# Quoted text

An error message that names a text, such as a chat id that cannot be a directory, shows
it in double quotes, so that a reader sees where it ends and what is in it: the usual
short escapes for the common controls, and a braced code point for every other
character that has no visible shape of its own.

* `escaped`: the spelling of one character.
* `quoted`: the whole text between its quotes.
-/

namespace ScriptedChat
namespace Text

/-- The digits of a code point, in lower case and without leading zeros. -/
def hexDigits (n : Nat) : List Char := Nat.toDigits 16 n

/-- The spelling of one character inside quotes. -/
def escaped (c : Char) : List Char :=
  if c = '\x00' then ['\\', '0']
  else if c = '\t' then ['\\', 't']
  else if c = '\n' then ['\\', 'n']
  else if c = '\r' then ['\\', 'r']
  else if c = '\\' then ['\\', '\\']
  else if c = '"' then ['\\', '"']
  else if unprintable c || combining c || filler c then
    ['\\', 'u', '\x7b'] ++ hexDigits c.toNat ++ ['\x7d']
  else [c]

/-- A text as a message shows it: in double quotes, with every character that could
not be read spelled out. -/
def quoted (s : String) : String :=
  String.ofList ('"' :: s.toList.flatMap escaped ++ ['"'])

end Text
end ScriptedChat
