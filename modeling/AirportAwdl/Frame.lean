import AirportAwdl.Lib.Bytes

/-!
# AWDL action framing

The envelope of `RTWAwdlFrame.hpp`: an 802.11 management header, a 16-byte vendor
action envelope, and a list of TLVs (`type : u8`, `length : le16`). A null buffer of
the source is the empty byte list here; every reader rejects both in the same branch.
-/

namespace AirportAwdl

open ByteBuffer

/-- Outcome of the envelope parser. -/
inductive ParseResult where
  | notAwdl
  | malformed
  | valid
deriving DecidableEq, Repr

/-- What the envelope parser reports about an accepted action body. -/
structure ActionInfo where
  version : UInt8 := 0
  subtype : UInt8 := 0
  tlvCount : UInt16 := 0
  /-- Types from 64 on are accepted but not represented. -/
  tlvTypes : UInt64 := 0
deriving DecidableEq, Repr

/-- One TLV; its length is the length of `data`. -/
structure Tlv where
  type : UInt8
  data : Bytes
deriving DecidableEq, Repr

/-- Bytes still to be read, and whether reading already failed. -/
structure TlvCursor where
  bytes : Bytes
  malformed : Bool := false
deriving DecidableEq, Repr

namespace TlvCursor

/-- One call of `TlvCursor::next`. -/
def next (c : TlvCursor) : Option Tlv × TlvCursor :=
  if c.bytes.length = 0 ∨ c.malformed then (none, c)
  else if c.bytes.length < 3 then (none, { c with malformed := true })
  else
    let length := (le16 c.bytes 1).toNat
    if length > c.bytes.length - 3 then (none, { c with malformed := true })
    else (some ⟨byteAt c.bytes 0, slice c.bytes 3 length⟩,
      { c with bytes := c.bytes.drop (3 + length) })

/-- The loop `while (cursor.next(tlv)) body`, whose body may return early with an error.
Every iteration consumes at least three bytes, so `c.bytes.length` is always enough fuel. -/
def forEach {σ ε : Type} (body : σ → Tlv → Except ε σ) :
    ℕ → TlvCursor → σ → Except ε (σ × TlvCursor)
  | 0, c, s => .ok (s, c)
  | fuel + 1, c, s =>
    match c.next with
    | (none, c') => .ok (s, c')
    | (some t, c') =>
      match body s t with
      | .error e => .error e
      | .ok s' => forEach body fuel c' s'

lemma next_of_fits {c : TlvCursor} (hm : c.malformed = false) {len : ℕ}
    (hlen : (le16 c.bytes 1).toNat = len) (hfit : 3 + len ≤ c.bytes.length) :
    c.next = (some ⟨byteAt c.bytes 0, slice c.bytes 3 len⟩,
      { c with bytes := c.bytes.drop (3 + len) }) := by
  unfold next
  rw [if_neg (by simp [hm]; intro h; simp [h] at hfit), if_neg (by omega)]
  simp only [hlen]
  rw [if_neg (by omega)]

lemma next_nil (c : TlvCursor) (h : c.bytes = []) : c.next = (none, c) := by
  simp [next, h]

lemma next_some {c c' : TlvCursor} {t : Tlv} (h : c.next = (some t, c')) :
    c.malformed = false ∧ c'.malformed = false ∧ 3 + t.data.length ≤ c.bytes.length ∧
      c'.bytes.length + 3 + t.data.length = c.bytes.length := by
  unfold next at h
  split at h
  · simp at h
  · rename_i h0
    split at h
    · simp at h
    · dsimp only at h
      split at h
      · simp at h
      · rename_i h3 hfit
        simp only [Prod.mk.injEq, Option.some.injEq] at h
        obtain ⟨rfl, rfl⟩ := h
        have hm : c.malformed = false := by
          cases hc : c.malformed with
          | false => rfl
          | true => exact absurd (Or.inr hc) h0
        refine ⟨hm, hm, ?_, ?_⟩
        · rw [length_slice (by omega)]; omega
        · rw [length_slice (by omega), List.length_drop]; omega

lemma forEach_two {σ ε : Type} {body : σ → Tlv → Except ε σ} {c c₁ c₂ : TlvCursor} {t₁ t₂ : Tlv}
    {s s₁ s₂ : σ} (fuel : ℕ) (h₁ : c.next = (some t₁, c₁)) (h₂ : c₁.next = (some t₂, c₂))
    (h₃ : c₂.bytes = []) (b₁ : body s t₁ = .ok s₁) (b₂ : body s₁ t₂ = .ok s₂) :
    forEach body (fuel + 3) c s = .ok (s₂, c₂) := by
  simp only [forEach, h₁, b₁, h₂, b₂, next_nil c₂ h₃]

/-- What the loop body preserves, the whole loop preserves. -/
lemma forEach_invariant {σ ε : Type} {body : σ → Tlv → Except ε σ} {P : σ → Prop}
    (hstep : ∀ s t s', P s → body s t = .ok s' → P s') :
    ∀ (fuel : ℕ) (c c' : TlvCursor) (s s' : σ), P s →
      forEach body fuel c s = .ok (s', c') → P s' := by
  intro fuel
  induction fuel with
  | zero =>
    intro c c' s s' hs h
    simp only [forEach, Except.ok.injEq, Prod.mk.injEq] at h
    exact h.1 ▸ hs
  | succ n ih =>
    intro c c' s s' hs h
    simp only [forEach] at h
    split at h
    · simp only [Except.ok.injEq, Prod.mk.injEq] at h
      exact h.1 ▸ hs
    · rename_i t c1 _
      cases hb : body s t with
      | error e => simp [hb] at h
      | ok s1 =>
        simp only [hb] at h
        exact ih c1 c' s1 s' (hstep s t s1 hs hb) h

end TlvCursor

/-- Loop body of `parseAction`: count the TLV and record its type. -/
def countTlv (parsed : ActionInfo) (t : Tlv) : Except ParseResult ActionInfo :=
  .ok { parsed with
    tlvCount := parsed.tlvCount + 1
    tlvTypes := if t.type < 64 then parsed.tlvTypes ||| (1 <<< t.type.toUInt64)
      else parsed.tlvTypes }

/-- Vendor action body, starting with its category. -/
def parseAction (body : Bytes) : ParseResult × ActionInfo :=
  if body.length < 5 ∨ byteAt body 0 ≠ 127 ∨ byteAt body 1 ≠ 0 ∨
      byteAt body 2 ≠ 0x17 ∨ byteAt body 3 ≠ 0xf2 ∨ byteAt body 4 ≠ 8 then (.notAwdl, {})
  else if body.length < 16 ∨ body.length > 4096 ∨ byteAt body 5 = 0 then (.malformed, {})
  else
    let parsed : ActionInfo := { version := byteAt body 5, subtype := byteAt body 6 }
    let cursor : TlvCursor := { bytes := body.drop 16 }
    match cursor.forEach countTlv cursor.bytes.length parsed with
    | .error r => (r, {})
    | .ok (parsed, cursor) => if cursor.malformed then (.malformed, {}) else (.valid, parsed)

/-- Complete 802.11 management header and body, without the hardware FCS. -/
def parseFrame (frame : Bytes) : ParseResult × ActionInfo :=
  if frame.length < 24 ∨ byteAt frame 0 ≠ 0xd0 ∨
      byteAt frame 1 &&& (0x03 ||| 0x04 ||| 0x40 ||| 0x80) ≠ 0 ∨ byteAt frame 22 &&& 15 ≠ 0 then
    (.notAwdl, {})
  else parseAction (frame.drop 24)

lemma length_of_parseAction {body : Bytes} (h : (parseAction body).1 = .valid) :
    16 ≤ body.length := by
  unfold parseAction at h
  split at h
  · simp at h
  split at h
  · simp at h
  · rename_i hlen
    omega

lemma length_of_parseFrame {frame : Bytes} (h : (parseFrame frame).1 = .valid) :
    40 ≤ frame.length := by
  unfold parseFrame at h
  split at h
  · simp at h
  · have hlength := length_of_parseAction h
    rw [List.length_drop] at hlength
    omega

end AirportAwdl
