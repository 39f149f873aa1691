import NativeBlock.Time.Instant
import NativeBlock.Time.Zone

/-!
# Local time in RFC 3339

An instant shown in a zone reads `YYYY-MM-DDTHH:MM:SS[.fff|.ffffff|.fffffffff]±HH:MM`. The date
and clock are those of local time, the instant plus the zone's exact offset; the offset itself
is shown rounded to the nearest minute, so a local mean time of `+00:53:28` shows as `+00:53`.
UTC shows as `+00:00`.
-/

namespace NativeBlock

/-- An offset from UTC in seconds as `±HH:MM`, rounded to the nearest minute. -/
def renderOffset (offset : Int) : String :=
  let sign := if offset < 0 then "-" else "+"
  let minutes := (offset.natAbs + 30) / 60
  sign ++ Calendar.pad 2 (minutes / 60) ++ ":" ++ Calendar.pad 2 (minutes % 60)

/-- The instant as local time of zone `z`, in RFC 3339. -/
def Instant.renderIn (i : Instant) (z : Zone) : String :=
  let offset := z.offsetAt i.secs
  Instant.renderAt (i.secs + offset) i.nanos "T" ++ renderOffset offset

end NativeBlock
