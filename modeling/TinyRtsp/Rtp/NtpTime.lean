import TinyRtsp.Foundation.FixedPoint
import TinyRtsp.Rtp.SenderReports

/-! The NTP timestamp of a sender report: the seconds since 1900 above a fraction
of 2^32 parts, computed in 64 bits from seconds and microseconds since 1970. -/
namespace TinyRtsp.RtpRtcpHandler

def ntpTimestampMsw (tv : Timeval) : UInt32 := (ntpTime tv >>> 32).toUInt32

def ntpTimestampLsw (tv : Timeval) : UInt32 := (ntpTime tv &&& 0xFFFFFFFF).toUInt32

section Words
variable (tv : Timeval)

theorem ntpTimestampMsw_eq_div : (ntpTimestampMsw tv).toNat = (ntpTime tv).toNat / 2 ^ 32 % 2 ^ 32 := by
  rw [ntpTimestampMsw, UInt64.toNat_toUInt32, UInt64.toNat_shiftRight,
    show (32 : UInt64).toNat % 64 = 32 from rfl, Nat.shiftRight_eq_div_pow]

theorem ntpTimestampLsw_eq_mod : (ntpTimestampLsw tv).toNat = (ntpTime tv).toNat % 2 ^ 32 := by
  rw [ntpTimestampLsw, UInt64.toNat_toUInt32, UInt64.toNat_and,
    show (0xFFFFFFFF : UInt64).toNat = 2 ^ 32 - 1 from rfl, Nat.and_two_pow_sub_one_eq_mod,
    Nat.mod_mod]

/-- The report carries the two words; its low word is cut to size without the mask. -/
theorem senderReport_ntp (ssrc : UInt32) (readings : Readings) (size : Nat) :
    (senderReport ssrc readings size).ntpTimestampMsw = ntpTimestampMsw readings.tv ∧
      (senderReport ssrc readings size).ntpTimestampLsw = ntpTimestampLsw readings.tv := by
  refine ⟨rfl, ?_⟩
  apply UInt32.toNat.inj
  rw [ntpTimestampLsw_eq_mod]
  exact UInt64.toNat_toUInt32 _

end Words

/-- The two words as they are read out of a datagram, behind the header and the SSRC. -/
def ntpTimestampOf (buffer : RtcpBuffer) : UInt32 × UInt32 :=
  let field := Memory.read buffer 8 8 (by decide)
  (hostLong (field 0) (field 1) (field 2) (field 3),
    hostLong (field 4) (field 5) (field 6) (field 7))

/-- A datagram carries the timestamp of the clock that its report was filled in from. -/
theorem ntpTimestampOf_copyReport (buffer : RtcpBuffer) (ssrc : UInt32) (readings : Readings)
    (size : Nat) (blocks : ReportBlocks) :
    ntpTimestampOf (copyReport buffer (senderReport ssrc readings size) blocks) =
      (ntpTimestampMsw readings.tv, ntpTimestampLsw readings.tv) := by
  obtain ⟨msw, lsw⟩ := senderReport_ntp ssrc readings size
  rw [ntpTimestampOf, copyReport, read_copyBlocks (by decide), ← msw, ← lsw,
    Memory.read_write (Nat.zero_le 8) (by decide)]
  exact Prod.ext (hostLong_networkLong _) (hostLong_networkLong _)

section Steps
variable {tv : Timeval}

/-! Each step of the computation on the values of its operands. The bounds are
those under which the step stays below 2^64. -/

theorem toNat_add_ntpEpoch (era : tv.tvSec.toNat + 2208988800 < 2 ^ 32) :
    (tv.tvSec + ntpEpoch).toNat = tv.tvSec.toNat + 2208988800 := by
  rw [UInt64.toNat_add, show ntpEpoch.toNat = 2208988800 from rfl]
  exact Nat.mod_eq_of_lt (by omega)

theorem toNat_seconds (era : tv.tvSec.toNat + 2208988800 < 2 ^ 32) :
    ((tv.tvSec + ntpEpoch) <<< 32).toNat = (tv.tvSec.toNat + 2208988800) * 2 ^ 32 := by
  rw [UInt64.toNat_shiftLeft, toNat_add_ntpEpoch era, show (32 : UInt64).toNat % 64 = 32 from rfl,
    Nat.shiftLeft_eq]
  apply Nat.mod_eq_of_lt
  rw [show 2 ^ 64 = 2 ^ 32 * 2 ^ 32 from rfl]
  exact Nat.mul_lt_mul_of_pos_right era (by decide)

theorem toNat_product (proper : tv.tvUsec.toNat < 1000000) :
    (tv.tvUsec * ((1 : UInt64) <<< 32)).toNat = tv.tvUsec.toNat * 2 ^ 32 := by
  rw [UInt64.toNat_mul, show ((1 : UInt64) <<< 32).toNat = 2 ^ 32 from rfl]
  exact Nat.mod_eq_of_lt (by omega)

theorem toNat_fraction (proper : tv.tvUsec.toNat < 1000000) :
    (tv.tvUsec * ((1 : UInt64) <<< 32) / 1000000).toNat =
      FixedPoint.rescale 1000000 (2 ^ 32) tv.tvUsec.toNat := by
  rw [UInt64.toNat_div, toNat_product proper, FixedPoint.rescale]
  rfl

theorem toNat_ntpTime (era : tv.tvSec.toNat + 2208988800 < 2 ^ 32) (proper : tv.tvUsec.toNat < 1000000) :
    (ntpTime tv).toNat =
      FixedPoint.stamp 1000000 (2 ^ 32) (tv.tvSec.toNat + 2208988800) tv.tvUsec.toNat := by
  rw [ntpTime, UInt64.toNat_add, toNat_seconds era, toNat_fraction proper]
  exact Nat.mod_eq_of_lt (FixedPoint.stamp_lt proper (by decide) era)

theorem toNat_ntpTimestampMsw (era : tv.tvSec.toNat + 2208988800 < 2 ^ 32)
    (proper : tv.tvUsec.toNat < 1000000) :
    (ntpTimestampMsw tv).toNat = tv.tvSec.toNat + 2208988800 := by
  rw [ntpTimestampMsw_eq_div, toNat_ntpTime era proper, FixedPoint.stamp_div proper (by decide)]
  exact Nat.mod_eq_of_lt era

theorem toNat_ntpTimestampLsw (era : tv.tvSec.toNat + 2208988800 < 2 ^ 32)
    (proper : tv.tvUsec.toNat < 1000000) :
    (ntpTimestampLsw tv).toNat = FixedPoint.rescale 1000000 (2 ^ 32) tv.tvUsec.toNat := by
  rw [ntpTimestampLsw_eq_mod, toNat_ntpTime era proper, FixedPoint.stamp_mod proper (by decide)]

end Steps

/-- A time of the clock since 1970 whose seconds since 1900 fit 32 bits. -/
structure ClockTime where
  tvSec : Nat
  tvUsec : Nat
  era : tvSec + 2208988800 < 2 ^ 32
  proper : tvUsec < 1000000

namespace ClockTime

/-- Both members cast to `uint64_t`. -/
def timeval (t : ClockTime) : Timeval := ⟨.ofNat t.tvSec, .ofNat t.tvUsec⟩

def key (t : ClockTime) : Nat ×ₗ Nat := toLex (t.tvSec, t.tvUsec)

theorem toNat_tvSec (t : ClockTime) : t.timeval.tvSec.toNat = t.tvSec := by
  have era := t.era
  rw [timeval, UInt64.toNat_ofNat']
  exact Nat.mod_eq_of_lt (by omega)

theorem toNat_tvUsec (t : ClockTime) : t.timeval.tvUsec.toNat = t.tvUsec := by
  have proper := t.proper
  rw [timeval, UInt64.toNat_ofNat']
  exact Nat.mod_eq_of_lt (by omega)

/-- Every step of the timestamp has the value it has on unbounded numbers, the
fraction stays out of the seconds, and the words are those of the time. -/
structure Exact (t : ClockTime) : Prop where
  epoch : (t.timeval.tvSec + ntpEpoch).toNat = t.tvSec + 2208988800
  seconds : ((t.timeval.tvSec + ntpEpoch) <<< 32).toNat = (t.tvSec + 2208988800) * 2 ^ 32
  product : (t.timeval.tvUsec * ((1 : UInt64) <<< 32)).toNat = t.tvUsec * 2 ^ 32
  fraction : (t.timeval.tvUsec * ((1 : UInt64) <<< 32) / 1000000).toNat = t.tvUsec * 2 ^ 32 / 1000000
  noCarry : t.tvUsec * 2 ^ 32 / 1000000 < 2 ^ 32
  sum : (ntpTime t.timeval).toNat = (t.tvSec + 2208988800) * 2 ^ 32 + t.tvUsec * 2 ^ 32 / 1000000
  msw : (ntpTimestampMsw t.timeval).toNat = t.tvSec + 2208988800
  lsw : (ntpTimestampLsw t.timeval).toNat = t.tvUsec * 2 ^ 32 / 1000000
  recovered : ((ntpTimestampLsw t.timeval).toNat * 1000000) ⌈/⌉ 2 ^ 32 = t.tvUsec

theorem era_timeval (t : ClockTime) : t.timeval.tvSec.toNat + 2208988800 < 2 ^ 32 := by
  rw [toNat_tvSec]
  exact t.era

theorem proper_timeval (t : ClockTime) : t.timeval.tvUsec.toNat < 1000000 := by
  rw [toNat_tvUsec]
  exact t.proper

theorem steps_exact (t : ClockTime) : t.Exact where
  epoch := by
    rw [toNat_add_ntpEpoch t.era_timeval, toNat_tvSec]
  seconds := by
    rw [toNat_seconds t.era_timeval, toNat_tvSec]
  product := by
    rw [toNat_product t.proper_timeval, toNat_tvUsec]
  fraction := by
    rw [toNat_fraction t.proper_timeval, toNat_tvUsec, FixedPoint.rescale]
  noCarry := FixedPoint.rescale_lt t.proper (by decide)
  sum := by
    rw [toNat_ntpTime t.era_timeval t.proper_timeval, toNat_tvSec, toNat_tvUsec, FixedPoint.stamp,
      FixedPoint.rescale]
  msw := by
    rw [toNat_ntpTimestampMsw t.era_timeval t.proper_timeval, toNat_tvSec]
  lsw := by
    rw [toNat_ntpTimestampLsw t.era_timeval t.proper_timeval, toNat_tvUsec, FixedPoint.rescale]
  recovered := by
    rw [toNat_ntpTimestampLsw t.era_timeval t.proper_timeval, toNat_tvUsec]
    exact FixedPoint.ceilDiv_rescale (by decide) (by decide) t.tvUsec

theorem ntpTime_lt_iff (t later : ClockTime) :
    ntpTime t.timeval < ntpTime later.timeval ↔ t.key < later.key := by
  rw [UInt64.lt_iff_toNat_lt, toNat_ntpTime t.era_timeval t.proper_timeval,
    toNat_ntpTime later.era_timeval later.proper_timeval,
    FixedPoint.stamp_lt_stamp_iff (by decide) t.proper_timeval later.proper_timeval]
  simp only [toNat_tvSec, toNat_tvUsec, key, Prod.Lex.toLex_lt_toLex, Nat.add_lt_add_iff_right,
    Nat.add_right_cancel_iff]

/-- Every timestamp is exact, and timestamps are ordered as their times are. -/
theorem ntp_exact_ordered (t : ClockTime) :
    t.Exact ∧ ∀ later : ClockTime, ntpTime t.timeval < ntpTime later.timeval ↔ t.key < later.key :=
  ⟨t.steps_exact, ntpTime_lt_iff t⟩

-- half a second is the high bit of the fraction
example : ∃ t : ClockTime, t.key = toLex (1700000000, 500000) ∧
    ntpTimestampMsw t.timeval = 3908988800 ∧ ntpTimestampLsw t.timeval = 0x80000000 :=
  ⟨⟨1700000000, 500000, by decide, by decide⟩, rfl, by decide, by decide⟩

end ClockTime
end TinyRtsp.RtpRtcpHandler
