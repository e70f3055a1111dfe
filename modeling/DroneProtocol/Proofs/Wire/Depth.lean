import Mathlib.Logic.Function.Iterate
import DroneProtocol.Proofs.Wire.Walking

/-! # Decoding reads to a bounded depth

Every nested payload sits behind a size inside the payload around it, so it is
strictly shorter. Main statement: `decoding_terminates`, with bodies read more
levels deep than the payload is long, the reader below the last level is
never called. -/

namespace DroneProtocol

open CodecOptions

variable {o : CodecOptions} {cat : Catalog}

/-- The body reader tied `n` levels deep over `base`: each level reads a body
with the level below as its reader of nested bodies. -/
def CodecOptions.readLevels (o : CodecOptions) (cat : Catalog) (n : Nat) (base : BodyReader) :
    BodyReader :=
  (fun b => o.decodeBodyWith b cat)^[n] base

theorem readLevels_succ (n : Nat) (base : BodyReader) :
    o.readLevels cat (n + 1) base = o.decodeBodyWith (o.readLevels cat n base) cat :=
  Function.iterate_succ_apply' _ n base

theorem bodyReader_eq_readLevels : ∀ n, o.bodyReader cat n = o.readLevels cat n (o.bodyReader cat 0)
  | 0 => rfl
  | n + 1 => by
    rw [readLevels_succ, ← bodyReader_eq_readLevels n]
    rfl

theorem readLevels_agree : ∀ (n : Nat) (b b' : BodyReader),
    BodiesAgree (o.readLevels cat n b) (o.readLevels cat n b') n
  | 0, _, _ => fun _ _ hr => absurd hr (Nat.not_lt_zero _)
  | n + 1, b, b' => fun d r hr => by
    rw [readLevels_succ, readLevels_succ]
    exact decodeBodyWith_congr d r ((readLevels_agree n b b').mono (by omega))

theorem readLevels_eq_bodyReader {F F' : Nat} (base : BodyReader) (d : MultisetDecl)
    {r : List UInt8} (hF : r.length < F) (hF' : r.length < F') :
    o.readLevels cat F base d r = o.bodyReader cat F' d r := by
  rw [readLevels_agree F base (o.bodyReader cat 0) d r hF, ← bodyReader_eq_readLevels]
  exact bodyReader_agree F F' d r (by omega)

theorem decodeArgsWith_readLevels (base : BodyReader) {F : Nat} {p : List UInt8}
    (hp : p.length < F) (cmd : Command) :
    o.decodeArgsWith (o.readLevels cat F base) cat cmd p = o.decodeArgs cat cmd p :=
  calc o.decodeArgsWith (o.readLevels cat F base) cat cmd p
      = o.decodeArgsWith (o.readLevels cat F (o.bodyReader cat 0)) cat cmd p :=
        decodeArgsWith_congr (readLevels_agree F base _) (Nat.le_of_lt hp) cmd
    _ = o.decodeArgsWith (o.bodyReader cat F) cat cmd p := by rw [← bodyReader_eq_readLevels]
    _ = o.decodeArgs cat cmd p := decodeArgsWith_bodyReader hp cmd

/-- A multiset region read with bodies tied deeper than it is long reads as
decoding reads it, whatever reader stands below. -/
theorem decodeMultiset_readLevels (base : BodyReader) {F : Nat} (decl : MultisetDecl)
    {region : List UInt8} (hF : region.length < F) :
    (do
      let body ← regionBody decl region
      let ms ← o.readLevels cat F base decl body
      pure (ms, WireError.join? ms.errors)) = o.decodeMultiset cat decl region := by
  simp only [CodecOptions.decodeMultiset]
  rcases hbody : regionBody decl region with e | body
  · rfl
  · have hlen := regionBody_length_le hbody
    simp only [Except.ok_bind]
    rw [readLevels_eq_bodyReader base decl (show body.length < F by omega)
      (show body.length < region.length + 2 by omega)]
    rfl

/-- Each step of the walk over a body takes the two bytes of a size, so the
walk ends within half the body's length in steps. -/
theorem subframes_fuel : ∀ (F F' : Nat) (c : Cursor), c.rest.length / 2 < F →
    c.rest.length / 2 < F' → subframes F c = subframes F' c
  | 0, _, _, h, _ => absurd h (Nat.not_lt_zero _)
  | _ + 1, 0, _, _, h => absurd h (Nat.not_lt_zero _)
  | F + 1, F' + 1, c, hF, hF' => by
    simp only [subframes]
    split
    · rfl
    rcases hword : c.word 2 with e | ⟨size, c₁⟩
    · rfl
    dsimp only
    rcases htake : c₁.take size with e | ⟨raw, c₂⟩
    · rfl
    dsimp only
    obtain ⟨bs, hbs, hrest, -⟩ := Cursor.word_eq_ok hword
    have hle := Cursor.take_rest_le htake
    -- the rest left after the step is at least two bytes shorter
    have hshorter : c₂.rest.length + 2 ≤ c.rest.length := by
      have := congrArg List.length hrest
      simp only [List.length_append, hbs] at this
      omega
    rw [subframes_fuel F F' c₂ (by omega) (by omega)]

/-- Decoding ends on every input, whatever the descriptors: decoding the
arguments of a command and decoding a multiset region never read nested
bodies more levels deep than their bytes are long, so the result is the same
whatever reader stands below that depth; and the walk over the sub-frames of a
body, which walking a region visits, gives its answer within half the body's
length in steps. -/
theorem decoding_terminates (o : CodecOptions) (cat : Catalog) :
    (∀ (base : BodyReader) (F : Nat) (cmd : Command) (p : List UInt8), p.length < F →
      o.decodeArgsWith (o.readLevels cat F base) cat cmd p = o.decodeArgs cat cmd p) ∧
    (∀ (base : BodyReader) (F : Nat) (decl : MultisetDecl) (region : List UInt8),
      region.length < F →
        (do
          let body ← regionBody decl region
          let ms ← o.readLevels cat F base decl body
          pure (ms, WireError.join? ms.errors)) = o.decodeMultiset cat decl region) ∧
    (∀ (F : Nat) (c : Cursor), c.rest.length / 2 < F →
      subframes F c = subframes (c.rest.length + 1) c) :=
  ⟨fun base _ cmd _ hp => decodeArgsWith_readLevels base hp cmd,
    fun base _ decl _ hF => decodeMultiset_readLevels base decl hF,
    fun F c hF => subframes_fuel F (c.rest.length + 1) c hF (by omega)⟩

end DroneProtocol
