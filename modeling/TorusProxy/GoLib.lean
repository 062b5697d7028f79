import Mathlib.Algebra.Ring.Nat
import Mathlib.Algebra.Ring.Int.Defs

/-! The parts of Go's standard library that the configuration code decides
with, on the strings a YAML document can hold. -/
namespace TorusProxy

abbrev Bytes := List UInt8

theorem eq_ok_of_toOption {α : Type} {x : Except String α} {a : α} (h : x.toOption = some a) :
    x = .ok a := by
  cases x with
  | error => cases h
  | ok => cases h; rfl

/-- A Go string is its UTF-8 bytes. -/
def bytes (s : String) : Bytes := s.toList.flatMap String.utf8EncodeChar

/-- `unicode.IsSpace`. -/
def isSpace (c : Char) : Bool :=
  let n := c.toNat
  (9 ≤ n && n ≤ 13) || n == 0x20 || n == 0x85 || n == 0xA0 || n == 0x1680 ||
    (0x2000 ≤ n && n ≤ 0x200A) || n == 0x2028 || n == 0x2029 || n == 0x202F ||
    n == 0x205F || n == 0x3000

/-- `strings.TrimSpace`. -/
def trimSpace (s : String) : String :=
  String.ofList ((s.toList.dropWhile isSpace).reverse.dropWhile isSpace).reverse

/-- `strings.HasPrefix`. -/
def hasPrefix (s p : String) : Bool := p.toList.isPrefixOf s.toList

def hexDigit (n : Nat) : Char := Char.ofNat (if n < 10 then 48 + n else 87 + n)

/-- The lower-case hexadecimal digits of `n`, padded to `width`. -/
def hex : Nat → Nat → List Char
  | 0, _ => []
  | width + 1, n => hex width (n / 16) ++ [hexDigit (n % 16)]

/-- One rune of `strconv.Quote`; `isPrint` is `strconv.IsPrint`. -/
def quoteRune (isPrint : Char → Bool) (c : Char) : List Char :=
  let n := c.toNat
  let backslash := Char.ofNat 92
  if n == 34 || n == 92 then [backslash, c]
  else if isPrint c then [c]
  else if n == 7 then [backslash, 'a']
  else if n == 8 then [backslash, 'b']
  else if n == 12 then [backslash, 'f']
  else if n == 10 then [backslash, 'n']
  else if n == 13 then [backslash, 'r']
  else if n == 9 then [backslash, 't']
  else if n == 11 then [backslash, 'v']
  else if n < 0x20 || n == 0x7F then backslash :: 'x' :: hex 2 n
  else if n < 0x10000 then backslash :: 'u' :: hex 4 n
  else backslash :: 'U' :: hex 8 n

/-- The verb `%q`. -/
def quote (isPrint : Char → Bool) (s : String) : String :=
  String.ofList (Char.ofNat 34 :: s.toList.flatMap (quoteRune isPrint) ++ [Char.ofNat 34])

/-- What the code reads of a parsed `url.URL`. -/
structure URL where
  scheme : String
  host : String
  deriving DecidableEq, Repr

/-- Split at the last colon when only digits follow it. -/
def cutPort (host : List Char) : List Char × List Char :=
  let tail := (host.reverse.takeWhile (· != ':')).reverse
  if host.contains ':' && tail.all Char.isDigit then
    (host.take (host.length - tail.length - 1), tail)
  else (host, [])

/-- The brackets around an IPv6 literal. -/
def stripBrackets (host : List Char) : List Char :=
  if host.head? = some '[' && host.getLast? = some ']' && 2 ≤ host.length then
    (host.drop 1).dropLast
  else host

def URL.hostname (u : URL) : String := String.ofList (stripBrackets (cutPort u.host.toList).1)

def URL.port (u : URL) : String := String.ofList (cutPort u.host.toList).2

def digitsValue (ds : List Char) : Nat := ds.foldl (fun v d => 10 * v + (d.toNat - 48)) 0

/-- `strconv.Atoi` on 64-bit machines. -/
def atoi (s : String) : Option Int :=
  let read (ds : List Char) : Option Nat :=
    if ds.isEmpty || !ds.all Char.isDigit then none else some (digitsValue ds)
  match s.toList with
  | '-' :: ds => (read ds).bind fun n => if n ≤ 2 ^ 63 then some (-(n : Int)) else none
  | '+' :: ds => (read ds).bind fun n => if n < 2 ^ 63 then some (n : Int) else none
  | ds => (read ds).bind fun n => if n < 2 ^ 63 then some (n : Int) else none

/-- One element of a path in `filepath.Clean`; the elements kept so far come
latest first. -/
def Filepath.cleanElement (rooted : Bool) (out : List Bytes) (elem : Bytes) : List Bytes :=
  if elem = [] ∨ elem = [46] then out
  else if elem = [46, 46] then
    match out with
    | [] => if rooted then [] else [elem]
    | last :: rest => if last = [46, 46] then elem :: out else rest
  else elem :: out

/-- `filepath.Clean` on Unix. -/
def Filepath.clean (path : Bytes) : Bytes :=
  let rooted := path.head? = some 47
  let out := (path.splitOn 47).foldl (cleanElement rooted) []
  let joined := List.intercalate [47] out.reverse
  if rooted then 47 :: joined else if out = [] then [46] else joined

example : Filepath.clean (bytes "/etc/./torus//../torus.yaml") = bytes "/etc/torus.yaml" := by decide

/-- `filepath.Abs` where `os.Getwd` answers `wd`. -/
def Filepath.abs (wd : Except String Bytes) (path : Bytes) : Except String Bytes :=
  if path.head? = some 47 then .ok (clean path) else wd.map fun dir => clean (dir ++ [47] ++ path)

/-- The conversion `float64(n)` of an unsigned integer: 53 significant bits,
ties to even. -/
def float64 (n : Nat) : Nat :=
  if n < 2 ^ 53 then n
  else
    let e := n.log2 - 52
    let q := n / 2 ^ e
    let r := n % 2 ^ e
    let up := 2 ^ e < 2 * r || (2 ^ e == 2 * r && q % 2 == 1)
    (if up then q + 1 else q) * 2 ^ e

theorem float64_exact {n : Nat} (h : n < 2 ^ 53) : float64 n = n := by
  unfold float64
  rw [if_pos h]

example : float64 (2 ^ 53 + 1) = 2 ^ 53 := by decide

end TorusProxy
