import DroneProtocol.Proofs.Descriptor.Reachable
import DroneProtocol.Proofs.Wire.Reading

/-! # Canonical argument values

Encoding accepts several values for enums and bitfields; decoding gives back
the canonical one, and `canonArg` maps a value to it through multisets at any
depth. `Value.InCatalog` says a value's multisets carry the declarations
their references resolve to. -/

namespace DroneProtocol

def EnumTable.entryOf? (t : EnumTable) : Value → Option EnumEntry
  | .entry e => t.byValue? e.value
  | .i32 n => t.byValue? n
  | .text s => t.values.find? (Utf8.encode ·.name == s)
  | _ => none

mutual

/-- The canonical form of a value of an argument. -/
def canonArg (a : Arg) (v : Value) : Value :=
  match a.type, v with
  | .enum, v =>
    match (a.enumTable.getD ⟨"", []⟩).entryOf? v with
    | some e => .entry e
    | none => v
  | .bitfield, .u64 x =>
    match a.base with
    | .u8 => .u8 x.toUInt8
    | .u16 => .u16 x.toUInt16
    | .u32 => .u32 x.toUInt32
    | _ => .u64 x
  | .multiset, .multiset (some m) =>
    .multiset (some { decl := m.decl, slots := canonSlots m.decl.members m.slots })
  | _, v => v
termination_by sizeOf v
decreasing_by
  have := Slots.sizeOf_slots_lt m
  simp only [wfParam, Value.multiset.sizeOf_spec, Option.some.sizeOf_spec]
  omega

def canonArgs : List Arg → List Value → List Value
  | a :: as, v :: vs => canonArg a v :: canonArgs as vs
  | _, _ => []
termination_by _ vs => sizeOf vs

def canonSlots : List Command → List (Option (List Value)) → List (Option (List Value))
  | m :: ms, some vs :: ss => some (canonArgs m.args vs) :: canonSlots ms ss
  | _ :: ms, none :: ss => none :: canonSlots ms ss
  | _, _ => []
termination_by _ ss => sizeOf ss

end

/-- Every multiset value inside a value carries the declaration that its
reference resolves to in `cat`. -/
inductive Value.InCatalog (cat : Catalog) : Value → Prop
  | leaf {v : Value} : (∀ m, v ≠ .multiset (some m)) → v.InCatalog cat
  | multiset {m : MultisetValue} : cat.resolve? m.decl.ref = some m.decl →
      (∀ s ∈ m.slots, ∀ vs ∈ s, ∀ w ∈ vs, w.InCatalog cat) →
      (Value.multiset (some m)).InCatalog cat

theorem Value.InCatalog.multiset_inv {cat : Catalog} {m : MultisetValue}
    (hv : (Value.multiset (some m)).InCatalog cat) :
    cat.resolve? m.decl.ref = some m.decl ∧ ∀ s ∈ m.slots, ∀ vs ∈ s, ∀ w ∈ vs, w.InCatalog cat := by
  cases hv with
  | leaf hleaf => exact absurd rfl (hleaf m)
  | multiset hres hin => exact ⟨hres, hin⟩

end DroneProtocol
