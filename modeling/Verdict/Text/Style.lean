/-!
# Styled text

Colours and weights for terminals. A styled text stands between the codes that turn the style on and
the code that turns all styles off; where that code occurs inside, the style is turned on again.

## Main definitions

* `Verdict.Text.Style` — a style.
* `Verdict.Text.Style.paint` — a text in a style.
-/

namespace Verdict.Text

/-- A style of a terminal. -/
inductive Style where
  | bold
  | red
  | green
  | yellow
  | blue
  | brightBlue
  /-- Bold and red at once. -/
  | alarm
  deriving Repr, DecidableEq

namespace Style

/-- The parameters of the code that turns a style on. -/
def parameters : Style → String
  | .bold => "1"
  | .red => "31"
  | .green => "32"
  | .yellow => "33"
  | .blue => "34"
  | .brightBlue => "94"
  | .alarm => "1;31"

/-- The code that turns a style on. -/
def start (style : Style) : List Char := ['\x1b', '['] ++ style.parameters.toList ++ ['m']

/-- The code that turns all styles off. -/
def stop : List Char := ['\x1b', '[', '0', 'm']

/-- A text with a code put behind every code that turns all styles off. -/
def restarting (code : List Char) : List Char → List Char
  | [] => []
  | '\x1b' :: '[' :: '0' :: 'm' :: rest => stop ++ code ++ restarting code rest
  | c :: rest => c :: restarting code rest

/-- A text in a style. -/
def paint (style : Style) (s : String) : String :=
  String.ofList (style.start ++ restarting style.start s.toList ++ stop)

end Style

end Verdict.Text
