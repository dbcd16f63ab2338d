import ObjectCalculus.Text.Hidden

/-!
# Quoted text

A string between double quotes or a character between single ones, with
escapes for the backslash, the enclosing quote and every character that has no
glyph of its own. The other kind of quote stands for itself.
-/

set_option autoImplicit false

namespace ObjectCalculus.Text

def codeEscape (character : Char) : List Char :=
  ['\\', 'u', '\x7b'] ++ Nat.toDigits 16 character.toNat ++ ['\x7d']

def escapeWithin (quote character : Char) : List Char :=
  if character = quote then ['\\', quote]
  else if character = '\\' then ['\\', '\\']
  else if character = '\n' then ['\\', 'n']
  else if character = '\r' then ['\\', 'r']
  else if character = '\t' then ['\\', 't']
  else if character.toNat = 0 then ['\\', '0']
  else if isHidden character then codeEscape character
  else [character]

def quoteChars (quote : Char) (characters : List Char) : List Char :=
  quote :: characters.flatMap (escapeWithin quote) ++ [quote]

def quoted (text : String) : String :=
  String.ofList (quoteChars '"' text.toList)

def quotedChar (character : Char) : String :=
  String.ofList (quoteChars '\'' [character])

end ObjectCalculus.Text
