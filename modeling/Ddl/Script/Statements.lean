import Ddl.Script.Lexeme
import Ddl.Separated

/-! A script is cut into its statements at the semicolons outside of quotes and comments. -/

namespace Ddl

/-- Why a script gives no statements. -/
inductive ScriptError where
  /-- The script cannot be cut into lexemes, which is shown by the text around the fault. -/
  | unreadable (excerpt : Text)
  /-- The script holds no statement. -/
  | noStatement
  deriving DecidableEq

/-- What is said about a script that gives no statements. -/
def ScriptError.message : ScriptError → Text
  | unreadable excerpt =>
    "DDL 스크립트를 토큰화할 수 없습니다: Error tokenizing '".toList ++ excerpt ++ ['\'']
  | noStatement => "No DDL statements found in script".toList

/-- Where a fault stands, in a script of the given length. -/
def ScanFault.place (length : Nat) : ScanFault → Nat
  -- All faults show at the end of the script, and some are noticed only beyond it.
  | unclosedComment => length + 1
  | quoteAtEnd => length + 1
  | unclosedQuote => length
  | doubledQuoteAtEnd => length - 1

/-- The text around a fault: up to fifty characters on either side, but not the last one of all. -/
def ScanFault.excerpt (script : Text) (fault : ScanFault) : Text :=
  let place := fault.place script.length
  (script.take (min (place + 50) (script.length - 1))).drop (place - 50)

namespace Script

/-- The chunks between semicolons, of which there is at least one. -/
def chunks (lexemes : List Lexeme) : List (List Lexeme) :=
  Separated.parts (· == .semicolon) lexemes

/-- The statement that a chunk holds, with the comments in it, unless it holds no token. -/
def statement? (chunk : List Lexeme) : Option Text :=
  if chunk.any Lexeme.isToken then some (Text.trim (chunk.flatMap Lexeme.text)) else none

/-- The statements of a script in order, without white space around them. -/
def statements (script : Text) : Except ScriptError (List Text) :=
  match Lexeme.scan script with
  | .ok lexemes => .ok ((chunks lexemes).filterMap statement?)
  | .error fault => .error (.unreadable (fault.excerpt script))

end Script

end Ddl
