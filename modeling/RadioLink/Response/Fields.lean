import RadioLink.Address
import RadioLink.Response.Error
/-! Reading the fields of a response body from the front, one after another. Each field
has a name and a width; a body that ends inside a field is a `truncated` fault that names
the field, the bytes it needs and the bytes that were left. -/
namespace RadioLink

/-- A reader of fields: it takes bytes from the front of the rest of a body. -/
abbrev FieldReader (α : Type) := StateT Bytes (Except DecodeError) α

namespace FieldReader

/-- The value of a reader on a body, with the bytes it left. -/
def run {α : Type} (r : FieldReader α) (body : Bytes) : Except DecodeError (α × Bytes) :=
  StateT.run r body

def take (what : String) (n : Nat) : FieldReader Bytes := fun bs =>
  if bs.length < n then .error (.truncated what n bs.length)
  else .ok (bs.take n, bs.drop n)

def byte (what : String) : FieldReader UInt8 := do
  let bs ← take what 1
  pure ((bs.headD 0))

def number (what : String) (n : Nat) : FieldReader Nat := do
  pure (Bytes.toNatBE (← take what n))

def word (what : String) : FieldReader UInt16 := do pure (← number what 2).toUInt16

def quad (what : String) : FieldReader UInt32 := do pure (← number what 4).toUInt32

def long (what : String) : FieldReader UInt64 := do pure (← number what 8).toUInt64

def address64 (what : String) : FieldReader Address64 := do pure ⟨← long what⟩

def address16 (what : String) : FieldReader Address16 := do pure ⟨← word what⟩

/-- The bytes up to the next NUL, which is consumed but not returned. -/
def cString : FieldReader Bytes := fun bs =>
  match bs.idxOf? 0 with
  | some i => .ok (bs.take i, bs.drop (i + 1))
  | none => .error .unterminatedIdentifier

def rest : FieldReader Bytes := fun bs => .ok (bs, [])

end FieldReader

end RadioLink
