/-!
# Keys

Keys are recorded by the codes of web browsers. A scene collection has names of its own for them.
-/

namespace BroadcastScenes.Hotkey

def namedKeys : List (String × String) :=
  [("Backquote", "ASCIITILDE"), ("Backspace", "BACKSPACE"), ("Tab", "TAB"), ("Space", "SPACE"),
    ("Period", "PERIOD"), ("Slash", "SLASH"), ("Backslash", "BACKSLASH"), ("Minus", "MINUS"),
    ("Comma", "COMMA"), ("Plus", "PLUS"), ("Quote", "APOSTROPHE"), ("Semicolon", "SEMICOLON"),
    ("NumpadSubtract", "NUMMINUS"), ("NumpadAdd", "NUMPLUS"), ("NumpadDecimal", "NUMPERIOD"),
    ("NumpadDivide", "NUMSLASH"), ("NumpadMultiply", "NUMASTERISK"), ("Enter", "RETURN"),
    ("CapsLock", "CAPSLOCK"), ("NumLock", "NUMLOCK"), ("ScrollLock", "SCROLLLOCK"),
    ("Pause", "PAUSE"), ("Insert", "INSERT"), ("Home", "HOME"), ("End", "END"),
    ("Escape", "ESCAPE"), ("Delete", "DELETE"), ("ArrowUp", "UP"), ("ArrowDown", "DOWN"),
    ("ArrowLeft", "LEFT"), ("ArrowRight", "RIGHT"), ("PageUp", "PAGEUP"),
    ("PageDown", "PAGEDOWN"), ("BracketLeft", "BRACKETLEFT"), ("BracketRight", "BRACKETRIGHT")]

def dropStart? (start name : String) : Option String :=
  (start.toList.isPrefixOf? name.toList).map String.ofList

/-- The code of a function key; longer names that start alike are told apart by their length in
UTF-8. -/
def isFunctionKey (code : String) : Bool :=
  code.toList.head? == some 'F' && decide (code.utf8ByteSize < 4)

def keyName? (code : String) : Option String :=
  let numberPad := (dropStart? "Numpad" code).filter fun _ => code.utf8ByteSize == 7
  (numberPad.map ("NUM" ++ ·)) <|> dropStart? "Key" code <|> dropStart? "Digit" code <|>
    (if isFunctionKey code then some code else none) <|> namedKeys.lookup code

def hostKey? (code : String) : Option String := (keyName? code).map ("OBS_KEY_" ++ ·)

example : hostKey? "KeyA" = some "OBS_KEY_A" := by decide +kernel

example : hostKey? "Numpad5" = some "OBS_KEY_NUM5" := by decide +kernel

example : hostKey? "F12" = some "OBS_KEY_F12" := by decide +kernel

example : hostKey? "FakeKey" = none := by decide +kernel

end BroadcastScenes.Hotkey
