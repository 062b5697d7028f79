import TorusProxy.GoLib

/-! The request multiplexer of `net/http`, for patterns that are plain paths or
the root `/`. No pattern but the root ends in a slash, so there is no subtree
to redirect to. -/
namespace TorusProxy

structure ServeMux (η : Type) where
  patterns : List (Bytes × η)

namespace ServeMux

/-- What the choice of a handler reads of a request. -/
structure Request where
  method : String
  escapedPath : Bytes
  deriving DecidableEq, Repr

inductive Found (η : Type)
  | handler (h : η)
  | redirect (path : Bytes)
  | notFound
  deriving DecidableEq, Repr

variable {η : Type}

def new : ServeMux η := ⟨[]⟩

def handle (m : ServeMux η) (pattern : Bytes) (h : η) : ServeMux η :=
  ⟨m.patterns ++ [(pattern, h)]⟩

/-! ## Paths -/

def unhex (c : UInt8) : Option UInt8 :=
  if 48 ≤ c ∧ c ≤ 57 then some (c - 48)
  else if 97 ≤ c ∧ c ≤ 102 then some (c - 87)
  else if 65 ≤ c ∧ c ≤ 70 then some (c - 55)
  else none

/-- `url.PathUnescape`. -/
def unescape : Bytes → Option (Bytes)
  | [] => some []
  | c :: rest =>
    if c = 37 then
      match rest with
      | a :: b :: rest => do
        let high ← unhex a
        let low ← unhex b
        let rest ← unescape rest
        return (high * 16 + low) :: rest
      | _ => none
    else (unescape rest).map (c :: ·)

/-- A segment that is not an escaped one stands for itself. -/
def pathUnescape (segment : Bytes) : Bytes := (unescape segment).getD segment

/-- `cleanPath`: rooted and clean, with its final slash. -/
def cleanPath (p : Bytes) : Bytes :=
  let rooted := if p.head? = some 47 then p else 47 :: p
  let clean := Filepath.clean rooted
  if rooted.getLast? = some 47 ∧ clean ≠ [47] then clean ++ [47] else clean

/-! ## The choice -/

/-- The pattern is this path, segment by segment. -/
def names (path pattern : Bytes) : Bool :=
  pattern ≠ [47] && ((path.drop 1).splitOn 47).map pathUnescape = (pattern.drop 1).splitOn 47

/-- A plain path goes before the root, which takes every path there is. -/
def find (m : ServeMux η) (path : Bytes) : Option η :=
  match m.patterns.find? fun p => names path p.1 with
  | some p => some p.2
  | none => if path = [] then none else (m.patterns.find? fun p => p.1 = [47]).map (·.2)

def Found.of : Option η → Found η
  | some h => .handler h
  | none => .notFound

/-- A path that is not clean is redirected, except for `CONNECT`. -/
def findHandler (m : ServeMux η) (r : Request) : Found η :=
  if r.method = "CONNECT" then .of (m.find r.escapedPath)
  else if cleanPath r.escapedPath = r.escapedPath then .of (m.find r.escapedPath)
  else .redirect (cleanPath r.escapedPath)

end ServeMux
end TorusProxy
