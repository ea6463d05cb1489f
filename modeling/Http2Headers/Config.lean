/-!
# Decoder configuration

The one setting a header decoder needs is the bound on a block's size: the sum of name, value
and 32 over its fields. It is 16384 unless set, and a SETTINGS frame may change it through
`SETTINGS_MAX_HEADER_LIST_SIZE` (identifier 6); other identifiers do not concern the decoder.
-/

namespace Http2Headers

/-- `SETTINGS_MAX_HEADER_LIST_SIZE`. -/
def settingsMaxHeaderListSize : UInt16 := 0x6

/-- The size bound when none is set. -/
def defaultMaxHeaderListSize : Nat := 16 * 1024

/-- What a header decoder is configured with: the bound on the sum of name, value and 32 over one
block's fields. -/
structure Config where
  maxHeaderListSize : Nat := defaultMaxHeaderListSize
deriving DecidableEq, Repr

namespace Config

/-- The configuration with another size bound. -/
def withMaxHeaderListSize (c : Config) (size : Nat) : Config :=
  { c with maxHeaderListSize := size }

/-- The configuration after one setting. -/
def applySetting (c : Config) (setting : UInt16 × UInt32) : Config :=
  if setting.1 = settingsMaxHeaderListSize then c.withMaxHeaderListSize setting.2.toNat else c

/-- The configuration after the settings of a SETTINGS frame, in order; the last size bound
wins. -/
def applySettings (c : Config) (settings : List (UInt16 × UInt32)) : Config :=
  settings.foldl applySetting c

example : (({} : Config).applySettings [(4, 1048576), (6, 8192)]).maxHeaderListSize = 8192 := by
  decide

end Config

end Http2Headers
