/-
Playing time — the length of PCM in time.

The length is computed in words of 64 bits: the samples times a million, divided by the rate.  So it
is the exact quotient, rounded down to microseconds, as long as that product is a word
(`PcmAudio.InRange`, `PcmAudio.duration_eq`).  Everything else is arithmetic of quotients of natural
numbers.  Quotients grow with the dividend and shrink with the divisor; and the quotient of a sum is
the sum of the quotients, or one more, where the two remainders make up a whole.

A buffer that a dispatcher accepts is short enough for a C `int`, and nowhere near the end of the
range.  A voice message takes the length of what it encodes, which has been accepted by then, be it
decoded or the caller's own input.  So the length in a voice record is exact
(`Service.duration_of_encodeVoice`).
-/

import MediaCodec.Proofs.Voice
import Mathlib.Data.Nat.ModEq

namespace MediaCodec

namespace PcmAudio

/-- The samples times a million are a word. -/
def InRange (p : PcmAudio) : Prop := p.sampleCount * 1000000 < UInt64.size

/-- More data behind the same PCM. -/
def followedBy (p : PcmAudio) (more : Bytes) : PcmAudio := { p with data := p.data ++ more }

/-! ## Samples -/

section Samples

variable {p q : PcmAudio}

theorem InRange.of_le (h : q.InRange) (hle : p.sampleCount ≤ q.sampleCount) : p.InRange :=
  lt_of_le_of_lt (Nat.mul_le_mul_right _ hle) h

theorem sampleCount_le (h : p.data.length ≤ q.data.length) : p.sampleCount ≤ q.sampleCount :=
  Nat.div_le_div_right h

theorem sampleCount_followedBy (heven : 2 ∣ p.data.length) (more : Bytes) :
    (p.followedBy more).sampleCount = p.sampleCount + more.length / 2 := by
  rw [sampleCount, followedBy, List.length_append, Nat.add_div_of_dvd_right heven, sampleCount]

/-- What is short enough for a C `int` is in range. -/
theorem inRange_of_length_le (h : p.data.length ≤ Status.maxLength) : p.InRange := by
  have hcount : p.sampleCount ≤ Status.maxLength := (Nat.div_le_self _ _).trans h
  refine lt_of_le_of_lt (Nat.mul_le_mul_right 1000000 hcount) ?_
  decide

theorem inRange_of_accepted {input : MediaBuffer} {limit : Option UInt64}
    (h : input.Accepted limit) (hdata : input.data.toBytes = p.data) : p.InRange :=
  inRange_of_length_le (hdata ▸ h.length_toBytes_le)

end Samples

/-! ## Words and quotients -/

theorem toNat_ofNat_mul (n : Nat) :
    (UInt64.ofNat n * 1000000).toNat = n * 1000000 % UInt64.size := by
  rw [UInt64.toNat_mul, UInt64.toNat_ofNat']
  exact Nat.mod_mul_mod n 1000000 UInt64.size

theorem toNat_micros {n : Nat} (h : n * 1000000 < UInt64.size) (rate : UInt32) :
    (micros n rate).toNat = n * 1000000 / rate.toNat := by
  rw [micros, UInt64.toNat_div, toNat_ofNat_mul, Nat.mod_eq_of_lt h, UInt32.toNat_toUInt64]

/-- No step of the computation wraps around: neither the conversion to a word nor the product. -/
def Fits (p : PcmAudio) : Prop :=
  (UInt64.ofNat p.sampleCount).toNat = p.sampleCount ∧
    (UInt64.ofNat p.sampleCount * 1000000).toNat = p.sampleCount * 1000000

theorem fits_iff (p : PcmAudio) : p.Fits ↔ p.InRange := by
  constructor
  · rintro ⟨-, hproduct⟩
    rw [InRange, ← hproduct]
    exact UInt64.toNat_lt_size _
  · intro h
    have hcount : p.sampleCount < UInt64.size :=
      lt_of_le_of_lt (Nat.le_mul_of_pos_right _ (by decide)) h
    exact ⟨UInt64.toNat_ofNat_of_lt hcount, (toNat_ofNat_mul _).trans (Nat.mod_eq_of_lt h)⟩

section Duration

variable {p q : PcmAudio}

theorem duration_of_rate_zero (h : p.sampleRate = 0) : p.duration = .zero := if_pos h

/-- The exact length; a quotient by zero is zero, and so is the length at that rate. -/
theorem duration_eq (h : p.InRange) :
    p.duration = .ofMicros (p.sampleCount * 1000000 / p.sampleRate.toNat) := by
  by_cases hrate : p.sampleRate = 0
  · rw [duration_of_rate_zero hrate, hrate, UInt32.toNat_zero, Nat.div_zero]
    rfl
  · rw [duration, if_neg hrate, toNat_micros h]

/-- Only whole samples and the rate count. -/
theorem duration_congr (hcount : p.sampleCount = q.sampleCount)
    (hrate : p.sampleRate = q.sampleRate) : p.duration = q.duration := by
  rw [duration, duration, hcount, hrate]

theorem duration_followedBy_byte (heven : 2 ∣ p.data.length) (b : UInt8) :
    (p.followedBy [b]).duration = p.duration := by
  have hcount : (p.followedBy [b]).sampleCount = p.sampleCount := by
    simp [sampleCount_followedBy heven]
  exact duration_congr hcount rfl

end Duration

end PcmAudio

/-! ## The order of durations -/

namespace Duration

theorem nanos_ofMicros_le {m n : Nat} (h : m ≤ n) : (ofMicros m).nanos ≤ (ofMicros n).nanos :=
  Nat.mul_le_mul_right 1000 h

theorem nanos_ofMicros_add (m n : Nat) :
    (ofMicros (m + n)).nanos = (ofMicros m).nanos + (ofMicros n).nanos :=
  Nat.add_mul m n 1000

end Duration

namespace PcmAudio

section Order

variable {p q : PcmAudio}

/-- More data last no shorter. -/
theorem nanos_duration_mono (hq : q.InRange) (hlength : p.data.length ≤ q.data.length)
    (hrate : p.sampleRate = q.sampleRate) : p.duration.nanos ≤ q.duration.nanos := by
  have hcount := sampleCount_le hlength
  rw [duration_eq (hq.of_le hcount), duration_eq hq, hrate]
  exact Duration.nanos_ofMicros_le (Nat.div_le_div_right (Nat.mul_le_mul_right _ hcount))

/-- The same data last no longer at a higher rate. -/
theorem nanos_duration_anti (hp : p.InRange) (hdata : p.data = q.data) (hpos : 0 < q.sampleRate)
    (hrate : q.sampleRate ≤ p.sampleRate) : p.duration.nanos ≤ q.duration.nanos := by
  have hcount : p.sampleCount = q.sampleCount := congrArg (·.length / 2) hdata
  rw [duration_eq hp, duration_eq (hp.of_le hcount.ge), hcount]
  exact Duration.nanos_ofMicros_le
    (Nat.div_le_div_left (UInt32.le_iff_toNat_le.mp hrate) (UInt32.lt_iff_toNat_lt.mp hpos))

/-- Two pieces played one after the other: each is rounded down by less than a microsecond, and so
is the whole. -/
theorem nanos_duration_followedBy {more : Bytes} (heven : 2 ∣ p.data.length)
    (h : (p.followedBy more).InRange) :
    let apart := p.duration.nanos + (PcmAudio.mk more p.sampleRate).duration.nanos
    apart ≤ (p.followedBy more).duration.nanos ∧
      (p.followedBy more).duration.nanos ≤ apart + (Duration.ofMicros 1).nanos := by
  have hwhole := sampleCount_followedBy heven more
  have hfirst : p.InRange := h.of_le (hwhole ▸ Nat.le_add_right _ _)
  have hsecond : (PcmAudio.mk more p.sampleRate).InRange :=
    h.of_le (hwhole ▸ Nat.le_add_left _ _)
  simp only [duration_eq h, duration_eq hfirst, duration_eq hsecond, hwhole, Nat.add_mul,
    ← Duration.nanos_ofMicros_add]
  exact ⟨Duration.nanos_ofMicros_le Nat.div_add_div_le_add_div,
    Duration.nanos_ofMicros_le (Nat.add_div_le_div_add_div_add_one _ _ _)⟩

end Order

end PcmAudio

/-! ## What is encoded as a voice message -/

namespace Service

variable {s : Service} {input : Buffer} {q : State}

/-- An input that the codec reports it cannot decode is taken for PCM. -/
theorem pcmBehind_of_reported {op : Operation} {code : Status} {kept : List Bytes}
    (h : (s.audioToPcm input q).result = .error (.codec (.backend op code kept))) :
    (s.pcmBehind input q).result = .ok (.native input.toBytes) := by
  refine (comesTo_pcmBehind fun _ => ?_).result
  rw [h]
  exact ⟨rfl, rfl, rfl⟩

/-- The dispatcher checked that input before it asked the codec. -/
theorem inRange_of_reported {op : Operation} {code : Status} {kept : List Bytes}
    (h : (s.audioToPcm input q).result = .error (.codec (.backend op code kept))) :
    (PcmAudio.native input.toBytes).InRange := by
  obtain ⟨hadmits, -⟩ := joined_eq_reported_iff.mp h
  exact PcmAudio.inRange_of_accepted hadmits.accepted rfl

/-- The length in a voice record is the exact length of what was encoded. -/
theorem duration_of_encodeVoice {v : VoiceRecord} (h : (s.encodeVoice input q).result = .ok v) :
    ∃ pcm, s.Becomes input q pcm v ∧
      v.duration = .ofMicros (pcm.length / 2 * 1000000 / PcmAudio.nativeRate.toNat) := by
  obtain ⟨pcm, hbecomes⟩ := (s.recorded_encodeVoice input q v).mp h
  have hrange : (PcmAudio.native pcm).InRange :=
    PcmAudio.inRange_of_accepted hbecomes.accepted (Buffer.toBytes_ofBytes pcm)
  exact ⟨pcm, hbecomes, hbecomes.duration.trans (PcmAudio.duration_eq hrange)⟩

end Service

namespace PcmAudio

/-- How long PCM lasts. -/
structure Timed (p : PcmAudio) : Prop where
  silent : p.sampleRate = 0 → p.duration = .zero
  fits : p.InRange → p.Fits
  exact : p.InRange → 0 < p.sampleRate →
    p.duration = .ofMicros (p.sampleCount * 1000000 / p.sampleRate.toNat)
  oddByte : ∀ b, 2 ∣ p.data.length → (p.followedBy [b]).duration = p.duration
  shorter : ∀ data, p.InRange → data.length ≤ p.data.length →
    (PcmAudio.mk data p.sampleRate).duration.nanos ≤ p.duration.nanos
  slower : ∀ rate, p.InRange → 0 < rate → rate ≤ p.sampleRate →
    p.duration.nanos ≤ (PcmAudio.mk p.data rate).duration.nanos
  /-- Cutting PCM between two samples loses a microsecond at most. -/
  cut : ∀ more, 2 ∣ p.data.length → (p.followedBy more).InRange →
    let apart := p.duration.nanos + (PcmAudio.mk more p.sampleRate).duration.nanos
    apart ≤ (p.followedBy more).duration.nanos ∧
      (p.followedBy more).duration.nanos ≤ apart + (Duration.ofMicros 1).nanos
  accepted : ∀ limit (input : MediaBuffer), input.Accepted limit → input.data.toBytes = p.data →
    p.InRange
  /-- What stands in for PCM that could not be decoded is in range. -/
  fallback : ∀ (s : Service) (input : Buffer) (q : State) op code kept,
    (s.audioToPcm input q).result = .error (.codec (.backend op code kept)) →
      p = .native input.toBytes → (s.pcmBehind input q).result = .ok p ∧ p.InRange

theorem timed_duration (p : PcmAudio) : p.Timed where
  silent := duration_of_rate_zero
  fits := p.fits_iff.mpr
  exact hrange _ := duration_eq hrange
  oddByte b heven := duration_followedBy_byte heven b
  shorter _ hrange hlength := nanos_duration_mono hrange hlength rfl
  slower _ hrange hpos hrate := nanos_duration_anti hrange rfl hpos hrate
  cut _ heven hrange := nanos_duration_followedBy heven hrange
  accepted _ _ haccepted hdata := inRange_of_accepted haccepted hdata
  fallback _ _ _ _ _ _ hreported hp :=
    hp ▸ ⟨Service.pcmBehind_of_reported hreported, Service.inRange_of_reported hreported⟩

end PcmAudio

end MediaCodec
