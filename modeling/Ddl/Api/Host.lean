import Ddl.Separated
import Ddl.Text.Digit
import Ddl.Text.Numeral
import Ddl.Text.Word

/-! A host is named by numbers or by words, and what is written like numbers has to be some. -/

namespace Ddl

/-- Why a text names no host. -/
inductive HostFault where
  /-- Four numbers with something between them are no address of four numbers. -/
  | badIPv4
  /-- What stands between brackets is no address of eight groups. -/
  | badIPv6
  /-- A name beyond ASCII has parts that are no words. -/
  | badName
  deriving DecidableEq

namespace Host

/-- Whether the text is a number below 256, written without needless zeros. -/
def isOctet (text : Text) : Bool :=
  text ≠ [] && text.length ≤ 3 && text.all isAsciiDigit &&
    (text = ['0'] || text.head? ≠ some '0') &&
    Numeral.valueOf (text.filterMap digitValue?) ≤ 255

/-- Whether the text is an address of four numbers with dots between them. -/
def isIPv4 (text : Text) : Bool :=
  let numbers := Separated.parts (· == '.') text
  numbers.length = 4 && numbers.all isOctet

/-- Whether the text is written like four numbers, with any one character between neighbours. -/
def looksIPv4 (text : Text) : Bool :=
  -- A digit may be one of those characters, if digits are left on both of its sides.
  let runs := Separated.parts (fun char => !isAsciiDigit char) text
  let spare := runs.foldl (fun count run => count + (run.length - 1) / 2) 0
  runs.all (· ≠ []) && runs.length ≤ 4 && 4 ≤ runs.length + spare

/-- Whether the text is one of the groups of a long address: one to four hexadecimal digits. -/
def isGroup (text : Text) : Bool :=
  text ≠ [] && text.length ≤ 4 && text.all fun char => (hexValue? char).isSome

/-- How many groups a text holds, the last two of which may be an address of four numbers. -/
def groupCount? (mayEndInIPv4 : Bool) (text : Text) : Option Nat :=
  if text = [] then some 0
  else
    let groups := Separated.parts (· == ':') text
    let last := groups.getLast?.getD []
    if !groups.dropLast.all isGroup then none
    else if isGroup last then some groups.length
    else if mayEndInIPv4 && isIPv4 last then some (groups.length + 1)
    else none

/-- The texts on the two sides of the first double colon. -/
def splitDoubleColon? : Text → Option (Text × Text)
  | ':' :: ':' :: rest => some ([], rest)
  | char :: rest => (splitDoubleColon? rest).map fun (before, after) => (char :: before, after)
  | [] => none

/-- Whether the text is an address of eight groups with colons between them. -/
def isGroups (text : Text) : Bool :=
  -- A double colon stands for at least one group of zeros.
  match splitDoubleColon? text with
  | none => groupCount? true text = some 8
  | some (before, after) =>
    match groupCount? false before, groupCount? true after with
    | some first, some second => first + second ≤ 7
    | _, _ => false

/-- Whether the text is an address of eight groups, after which a zone may be named. -/
def isIPv6 (text : Text) : Bool :=
  match text.span (· ≠ '%') with
  | (address, _ :: zone) => isGroups address && zone ≠ [] && '%' ∉ zone
  | (address, []) => isGroups address

/-- Whether the character separates the labels of a name. -/
def isDot (char : Char) : Bool :=
  char == '.' || char == '\u3002' || char == '\uFF0E' || char == '\uFF61'

/-- Whether the character may stand in a label: a letter or digit of any script, or a hyphen. -/
def isLabelChar (char : Char) : Bool :=
  char == '-' || (isWord char && char ≠ '_')

/-- Whether the text is a label of a name, judged by its characters and by where hyphens stand. -/
def isLabel (text : Text) : Bool :=
  -- Hyphens at both the third and the fourth place are kept for names that are written in code.
  text ≠ [] && text.all isLabelChar && text.head? ≠ some '-' && text.getLast? ≠ some '-' &&
    (text.drop 2).take 2 ≠ ['-', '-']

/-- Whether the text is a name made of labels. -/
def isName (text : Text) : Bool :=
  -- A dot may follow the last label.
  let labels := Separated.parts isDot text
  let named := if labels.getLast? = some [] then labels.dropLast else labels
  named ≠ [] && named.all isLabel

/-- Whether the character is one of ASCII. -/
def isAscii (char : Char) : Bool :=
  char.toNat < 0x80

/-- Why a text names no host, if it names none. -/
def fault? (text : Text) : Option HostFault :=
  -- A name in ASCII may be made of any characters.
  if text = [] then none
  else if looksIPv4 text then if isIPv4 text then none else some .badIPv4
  else if text.head? = some '[' ∧ text.getLast? = some ']' then
    if isIPv6 ((text.drop 1).dropLast) then none else some .badIPv6
  else if text.all isAscii ∨ isName text then none
  else some .badName

end Host

end Ddl
