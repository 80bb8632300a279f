import ZigReflect.Tool.Format
import ZigReflect.Tool.Script

/-!
# Sums in scripts

The expressions of scripts: whole numbers and variables with the usual operators,
of which a comparison gives one or zero. An expression without a value tells what
is wrong with it.
-/

namespace ZigReflect.Tool

/-- The pieces of an expression. -/
inductive SumToken where
  | number (n : Int)
  | name (s : String)
  | op (s : String)
deriving DecidableEq, Repr, Inhabited

/-- The operators of expressions, longer ones first. -/
def sumOperators : List String :=
  ["&&", "||", "==", "!=", "<=", ">=", "<", ">", "+", "-", "*", "/", "%", "(", ")", "!"]

/-- What is wrong with an expression. -/
inductive SumFault where
  | missingOperand
  | excess
  | missingParenthesis
  | divisionByZero
deriving DecidableEq, Repr, Inhabited

/-- How a fault is called. -/
def SumFault.text : SumFault → String
  | .missingOperand => "expecting primary"
  | .excess => "expecting EOF"
  | .missingParenthesis => "expecting ')'"
  | .divisionByZero => "division by zero"

/-- Cuts an expression into pieces. A character that starts none of them is an
operator of its own, which binds nothing. -/
def sumTokens : Nat → List Char → List SumToken
  | 0, _ => []
  | _, [] => []
  | fuel + 1, c :: rest =>
    let cs := c :: rest
    if c == ' ' || c == '\t' || c == '\n' then sumTokens fuel rest
    else if Text.isDigit c then
      let (n, size) := leadingNumber cs
      .number n :: sumTokens fuel (cs.drop (max 1 size))
    else if isNameStart c then
      .name (String.ofList (cs.takeWhile isNameChar)) :: sumTokens fuel (cs.dropWhile isNameChar)
    else
      match sumOperators.find? fun o => cs.take o.length == o.toList with
      | some o => .op o :: sumTokens fuel (cs.drop o.length)
      | none => .op (String.ofList [c]) :: sumTokens fuel rest

/-- How tightly an operator binds. -/
def sumRank? : String → Option Nat
  | "||" => some 1
  | "&&" => some 2
  | "==" => some 3
  | "!=" => some 3
  | "<" => some 4
  | ">" => some 4
  | "<=" => some 4
  | ">=" => some 4
  | "+" => some 5
  | "-" => some 5
  | "*" => some 6
  | "/" => some 6
  | "%" => some 6
  | _ => none

/-- The value of an operator; a division by zero has none. -/
def sumApply (op : String) (a b : Int) : Except SumFault Int :=
  let truth (p : Bool) : Except SumFault Int := .ok (if p then 1 else 0)
  match op with
  | "||" => truth (a != 0 || b != 0)
  | "&&" => truth (a != 0 && b != 0)
  | "==" => truth (a == b)
  | "!=" => truth (a != b)
  | "<" => truth (a < b)
  | ">" => truth (a > b)
  | "<=" => truth (a ≤ b)
  | ">=" => truth (a ≥ b)
  | "+" => .ok (a + b)
  | "-" => .ok (a - b)
  | "*" => .ok (a * b)
  | "/" => if b = 0 then .error .divisionByZero else .ok (Int.tdiv a b)
  | "%" => if b = 0 then .error .divisionByZero else .ok (Int.tmod a b)
  | _ => .error .excess

mutual

/-- The value of what stands at the start, with the operators behind it that bind
at least as tightly as a rank. -/
def sumValue (value : String → Int) : Nat → Nat → List SumToken →
    Except SumFault (Int × List SumToken)
  | 0, _, _ => .error .missingOperand
  | fuel + 1, rank, ts =>
    match ts with
    | .number n :: ts => sumRest value fuel rank n ts
    | .name s :: ts => sumRest value fuel rank (value s) ts
    | .op "-" :: ts => do
      let (n, ts) ← sumValue value fuel 7 ts
      sumRest value fuel rank (-n) ts
    | .op "+" :: ts => do
      let (n, ts) ← sumValue value fuel 7 ts
      sumRest value fuel rank n ts
    | .op "!" :: ts => do
      let (n, ts) ← sumValue value fuel 7 ts
      sumRest value fuel rank (if n = 0 then 1 else 0) ts
    | .op "(" :: ts => do
      match ← sumValue value fuel 0 ts with
      | (n, .op ")" :: ts) => sumRest value fuel rank n ts
      | _ => .error .missingParenthesis
    | _ => .error .missingOperand

/-- The value of a number with the operators behind it. -/
def sumRest (value : String → Int) : Nat → Nat → Int → List SumToken →
    Except SumFault (Int × List SumToken)
  | 0, _, _, _ => .error .missingOperand
  | fuel + 1, rank, a, ts =>
    match ts with
    | .op o :: rest =>
      match sumRank? o with
      | some r =>
        if r < rank then .ok (a, ts)
        else do
          let (b, rest) ← sumValue value fuel (r + 1) rest
          sumRest value fuel rank (← sumApply o a b) rest
      | none => .ok (a, ts)
    | ts => .ok (a, ts)

end

/-- The value of an expression; that of nothing is zero. -/
def sum (value : String → Int) (cs : List Char) : Except SumFault Int :=
  let ts := sumTokens (cs.length + 1) cs
  if ts.isEmpty then .ok 0
  else
    match sumValue value (4 * ts.length + 4) 0 ts with
    | .ok (n, []) => .ok n
    | .ok (_, _ :: _) => .error .excess
    | .error fault => .error fault

end ZigReflect.Tool
