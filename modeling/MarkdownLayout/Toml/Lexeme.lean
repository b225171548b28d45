import MarkdownLayout.Decimal.Reading
import MarkdownLayout.Json.Quoted
import MarkdownLayout.Text.Scanner

set_option autoImplicit false

namespace MarkdownLayout.Toml

open Scanner

def isBlank (c : Char) : Bool := c = ' ' || c = '\t'

def blanks : Scanner Unit := do
  let _ ← takeWhile isBlank

def newline : Scanner Unit := char '\n' <|> word "\r\n"

def comment : Scanner Unit := do
  char '#'
  let _ ← takeWhile fun c => c = '\t' || (0x20 ≤ c.toNat && c.toNat ≠ 0x7F)

def lineEnd : Scanner Unit := do
  blanks
  let _ ← attempt comment
  newline <|> atEnd

def gap : Scanner Unit := do
  let _ ← repeated ((do let _ ← takeSome isBlank) <|> newline <|> (do comment; newline))

/-! ## Strings -/

def isBasicChar (c : Char) : Bool :=
  c = '\t' || (0x20 ≤ c.toNat && c.toNat ≠ 0x7F && c ≠ '"' && c ≠ '\\')

def isLiteralChar (c : Char) : Bool := c = '\t' || (0x20 ≤ c.toNat && c.toNat ≠ 0x7F && c ≠ '\'')

def hexNumber (digits : List Char) : Option Nat :=
  digits.foldl (fun n c => do some ((← n) * 16 + (← Json.Quoted.hexValue? c))) (some 0)

def codePoint (width : Nat) : Scanner (List Char) := fun cs =>
  match hexNumber (cs.take width) with
  | some n => if width ≤ cs.length ∧ n.isValidChar then some ([Char.ofNat n], cs.drop width) else none
  | none => none

def escape : Scanner (List Char) := do
  char '\\'
  match ← satisfying fun _ => true with
  | 'b' => pure ['\x08']
  | 't' => pure ['\t']
  | 'n' => pure ['\n']
  | 'f' => pure ['\x0c']
  | 'r' => pure ['\r']
  | '"' => pure ['"']
  | '\\' => pure ['\\']
  | 'u' => codePoint 4
  | 'U' => codePoint 8
  | _ => fail

def basicString : Scanner String := do
  char '"'
  let parts ← repeated (takeSome isBasicChar <|> escape)
  char '"'
  pure (.ofList parts.flatten)

def literalString : Scanner String := do
  char '\''
  let text ← takeWhile isLiteralChar
  char '\''
  pure (.ofList text)

def continuation : Scanner (List Char) := do
  char '\\'
  blanks
  newline
  let _ ← repeated ((do let _ ← takeSome isBlank) <|> newline)
  pure []

def innerMarks (mark : Char) : Scanner (List Char) := do
  let marks ← (do literal [mark, mark]; pure [mark, mark]) <|> (do char mark; pure [mark])
  let next ← peek
  guard (next.isSome && next != some mark)
  pure marks

-- A string over several lines. Up to two marks may stand right before the closing three.
def multiline (mark : Char) (part : Scanner (List Char)) : Scanner String := do
  literal [mark, mark, mark]
  let _ ← attempt newline
  let parts ← repeated (part <|> (do newline; pure ['\n']) <|> innerMarks mark)
  let marks ← takeWhile fun c => c = mark
  guard (3 ≤ marks.length && marks.length ≤ 5)
  pure (.ofList (parts.flatten ++ marks.drop 3))

def anyString : Scanner String :=
  multiline '"' (takeSome isBasicChar <|> continuation <|> escape) <|> basicString
    <|> multiline '\'' (takeSome isLiteralChar) <|> literalString

/-! ## Numbers -/

def digits (isDigit : Char → Bool) : Scanner (List Char) := do
  let first ← satisfying isDigit
  let others ← repeated (satisfying isDigit <|> (do char '_'; satisfying isDigit))
  pure (first :: others)

def sign : Scanner Bool := do
  let found ← attempt (satisfying fun c => c = '+' || c = '-')
  pure (found == some '-')

def decimal : Scanner (Bool × List Char) := do
  let negative ← sign
  let whole ← digits Char.isDigit
  guard (whole.length == 1 || whole.head? != some '0')
  pure (negative, whole)

def based (mark : Char) (base : Nat) : Scanner Int := do
  literal ['0', mark]
  let found ← digits fun c => match Json.Quoted.hexValue? c with
    | some n => n < base
    | none => false
  let n := found.foldl (fun n c => n * base + (Json.Quoted.hexValue? c).getD 0) 0
  guard (n < Decimal.signedRoom)
  pure n

def integer : Scanner Int :=
  based 'x' 16 <|> based 'o' 8 <|> based 'b' 2 <|> do
    let (negative, whole) ← decimal
    let n := Decimal.ofDigits whole
    guard (if negative then n ≤ Decimal.signedRoom else n < Decimal.signedRoom)
    pure (if negative then -(n : Int) else n)

def exponent : Scanner Int := do
  let _ ← satisfying fun c => c = 'e' || c = 'E'
  let negative ← sign
  let n := Decimal.ofDigits (← digits Char.isDigit)
  pure (if negative then -(n : Int) else n)

def signed (negative : Bool) (x : Float) : Float := if negative then -x else x

-- A number with a fraction, an exponent or both. A positive number beyond all others is refused.
def fractional : Scanner Float := do
  let (negative, whole) ← decimal
  let fraction ← attempt (do char '.'; digits Char.isDigit)
  let power ← attempt exponent
  guard (fraction.isSome || power.isSome)
  let fractionDigits := fraction.getD []
  let x := Decimal.toNearest (Decimal.ofDigits (whole ++ fractionDigits)) (power.getD 0 - fractionDigits.length)
  guard (negative || !x.isInf)
  pure (signed negative x)

def special : Scanner Float := do
  let negative ← sign
  let x ← (do word "inf"; pure (1 / 0)) <|> (do word "nan"; pure (0 / 0))
  pure (signed negative x)

/-! ## Dates -/

def pair (low high : Nat) : Scanner (List Char) := do
  let tens ← satisfying Char.isDigit
  let ones ← satisfying Char.isDigit
  let n := Decimal.ofDigits [tens, ones]
  guard (low ≤ n && n ≤ high)
  pure [tens, ones]

def monthLength (year month : Nat) : Nat :=
  if month = 2 then if year % 4 = 0 ∧ (year % 100 ≠ 0 ∨ year % 400 = 0) then 29 else 28
  else if month = 4 ∨ month = 6 ∨ month = 9 ∨ month = 11 then 30
  else 31

def date : Scanner (List Char) := do
  let year := (← pair 0 99) ++ (← pair 0 99)
  char '-'
  let month ← pair 1 12
  char '-'
  let day ← pair 1 31
  guard (Decimal.ofDigits day ≤ monthLength (Decimal.ofDigits year) (Decimal.ofDigits month))
  pure (year ++ '-' :: month ++ '-' :: day)

def time : Scanner (List Char) := do
  let hour ← pair 0 23
  char ':'
  let minute ← pair 0 59
  char ':'
  let second ← pair 0 60
  let fraction ← attempt (do char '.'; takeSome Char.isDigit)
  let shown := (((fraction.getD []).take 9).reverse.dropWhile fun c => c = '0').reverse
  pure (hour ++ ':' :: minute ++ ':' :: second ++ if shown.isEmpty then [] else '.' :: shown)

def offset : Scanner (List Char) :=
  (do let _ ← satisfying fun c => c = 'Z' || c = 'z'
      pure ['Z'])
  <|> (do
      let direction ← satisfying fun c => c = '+' || c = '-'
      let hour ← pair 0 23
      char ':'
      let minute ← pair 0 59
      let far := hour ++ ':' :: minute
      pure ((if far = ['0', '0', ':', '0', '0'] then '+' else direction) :: far))

def datetime : Scanner String :=
  (do let day ← date
      let rest ← attempt do
        let _ ← satisfying fun c => c = 'T' || c = 't' || c = ' '
        let moment ← time
        let zone ← attempt offset
        pure ('T' :: moment ++ zone.getD [])
      pure (.ofList (day ++ rest.getD [])))
  <|> String.ofList <$> time

end MarkdownLayout.Toml
