import Launchpad.Machine.Process
import Launchpad.Script.Arithmetic
import Launchpad.Script.Field

/-!
What words stand for, as far as no script has to be run for it: homes, the values of parameters, and
parts of values.
-/

namespace Launchpad.Machine.Shell

open Script

def homeOf? (s : ShellProcess) (user : String) : Option Octets :=
  if user = "" then s.value? "HOME" else if user = "root" then some "/root" else none

/-- Put the homes of users in place of the signs for them at the front of a text, and in an
assignment also behind colons. `isLast` tells whether the word ends with the text. -/
def homesInText (s : ShellProcess) (assigning atStart isLast : Bool) (content : String) : Word :=
  let segments := if assigning then content.splitOn ":" else [content]
  let count := segments.length
  let pieces := (segments.zip (List.range count)).map fun (segment, k) =>
    let between := if k = 0 then "" else ":"
    let plain : Word := [Piece.text (between ++ segment) false]
    if (k > 0 || atStart) && segment.startsWith "~" then
      let user := (((segment.drop 1).takeWhile (· ≠ '/'))).toString
      let isWhole := segment.length > user.length + 1 || k + 1 < count || isLast
      match (if isWhole then homeOf? s user else none) with
      | some home =>
        [.text between false, .text home true,
          .text (segment.drop (user.length + 1)).toString false]
      | none => plain
    else plain
  pieces.flatten.filter fun
    | .text "" false => false
    | _ => true

/-- Put the homes of users in place of the signs for them in a word. -/
def withHomes (s : ShellProcess) (assigning : Bool) (w : Word) : Word :=
  let count := w.length
  ((w.zip (List.range count)).map fun (piece, k) =>
    match piece with
    | .text content false =>
      if content.toList.contains '~' then
        homesInText s assigning (k = 0) (k + 1 = count) content
      else [piece]
    | piece => [piece]).flatten

/-- What stands between the arguments when they become one text: the first separator. -/
def joint (s : ShellProcess) : List Char :=
  match s.value? "IFS" with
  | some text => text.toList.take 1
  | none => [' ']

def textOf (s : ShellProcess) (items : List Item) : Octets :=
  (wholeField (joint s) items).text

def valueItems (quoted : Bool) (text : Octets) : List Item :=
  if quoted then .anchor :: glyphs text .quoted else glyphs text .expanded

def parameterItems (s : ShellProcess) (name : String) (quoted : Bool) (values : List Octets) :
    List Item :=
  if name = "*" && quoted then
    .anchor :: glyphs ((String.ofList (joint s)).intercalate values) .quoted
  else if name = "@" || name = "*" then
    List.flatten ((values.map (valueItems quoted)).intersperse [.boundary])
  else valueItems quoted (String.join values)

def joinedValue (s : ShellProcess) (values : List Octets) : Octets :=
  (String.ofList (joint s)).intercalate values

/-- What is said when a value is demanded that is not there. -/
def missingText (name : String) (emptyCounts : Bool) : Octets :=
  name ++ ": parameter not set" ++ (if emptyCounts then " or null" else "")

/-- What an expansion that nothing is asked of twice stands for, which is cut at separators and read
as a pattern. -/
def asExpanded (items : List Item) : List Item :=
  items.map fun item =>
    match item with
    | .glyph c .written => .glyph c .expanded
    | item => item

/-- Bytes without the ends of lines behind them, as a text. Zeros are left out. -/
def trimmedOutput (bytes : ByteArray) : Octets :=
  let kept := (bytes.toList.filter (· ≠ 0)).reverse.dropWhile (· = 10)
  Octets.ofBytes kept.reverse

end Launchpad.Machine.Shell
