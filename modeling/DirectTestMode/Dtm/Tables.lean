import Mathlib.Data.Nat.Notation

/-!
# The reference payloads

The two pseudo-random sequences a test packet can carry, as the octets of `dtm_prbs9_content` and
`dtm_prbs15_content`, and the octets the repeated patterns use.

The tables are the source's, octet for octet. Only their lengths are shown here: they are what keeps
the copies and comparisons of the library inside the tables, since both tables are as long as the
largest payload. That their contents are what the shift registers put out is shown where the payload
is generated, against a definition of the registers and not against a second table.
-/

namespace DirectTestMode

/-- `dtm_prbs9_content`. -/
def dtmPrbs9Content : List UInt8 := [
  0xFF, 0xC1, 0xFB, 0xE8, 0x4C, 0x90, 0x72, 0x8B,
  0xE7, 0xB3, 0x51, 0x89, 0x63, 0xAB, 0x23, 0x23,
  0x02, 0x84, 0x18, 0x72, 0xAA, 0x61, 0x2F, 0x3B,
  0x51, 0xA8, 0xE5, 0x37, 0x49, 0xFB, 0xC9, 0xCA,
  0x0C, 0x18, 0x53, 0x2C, 0xFD, 0x45, 0xE3, 0x9A,
  0xE6, 0xF1, 0x5D, 0xB0, 0xB6, 0x1B, 0xB4, 0xBE,
  0x2A, 0x50, 0xEA, 0xE9, 0x0E, 0x9C, 0x4B, 0x5E,
  0x57, 0x24, 0xCC, 0xA1, 0xB7, 0x59, 0xB8, 0x87,
  0xFF, 0xE0, 0x7D, 0x74, 0x26, 0x48, 0xB9, 0xC5,
  0xF3, 0xD9, 0xA8, 0xC4, 0xB1, 0xD5, 0x91, 0x11,
  0x01, 0x42, 0x0C, 0x39, 0xD5, 0xB0, 0x97, 0x9D,
  0x28, 0xD4, 0xF2, 0x9B, 0xA4, 0xFD, 0x64, 0x65,
  0x06, 0x8C, 0x29, 0x96, 0xFE, 0xA2, 0x71, 0x4D,
  0xF3, 0xF8, 0x2E, 0x58, 0xDB, 0x0D, 0x5A, 0x5F,
  0x15, 0x28, 0xF5, 0x74, 0x07, 0xCE, 0x25, 0xAF,
  0x2B, 0x12, 0xE6, 0xD0, 0xDB, 0x2C, 0xDC, 0xC3,
  0x7F, 0xF0, 0x3E, 0x3A, 0x13, 0xA4, 0xDC, 0xE2,
  0xF9, 0x6C, 0x54, 0xE2, 0xD8, 0xEA, 0xC8, 0x88,
  0x00, 0x21, 0x86, 0x9C, 0x6A, 0xD8, 0xCB, 0x4E,
  0x14, 0x6A, 0xF9, 0x4D, 0xD2, 0x7E, 0xB2, 0x32,
  0x03, 0xC6, 0x14, 0x4B, 0x7F, 0xD1, 0xB8, 0xA6,
  0x79, 0x7C, 0x17, 0xAC, 0xED, 0x06, 0xAD, 0xAF,
  0x0A, 0x94, 0x7A, 0xBA, 0x03, 0xE7, 0x92, 0xD7,
  0x15, 0x09, 0x73, 0xE8, 0x6D, 0x16, 0xEE, 0xE1,
  0x3F, 0x78, 0x1F, 0x9D, 0x09, 0x52, 0x6E, 0xF1,
  0x7C, 0x36, 0x2A, 0x71, 0x6C, 0x75, 0x64, 0x44,
  0x80, 0x10, 0x43, 0x4E, 0x35, 0xEC, 0x65, 0x27,
  0x0A, 0xB5, 0xFC, 0x26, 0x69, 0x3F, 0x59, 0x99,
  0x01, 0x63, 0x8A, 0xA5, 0xBF, 0x68, 0x5C, 0xD3,
  0x3C, 0xBE, 0x0B, 0xD6, 0x76, 0x83, 0xD6, 0x57,
  0x05, 0x4A, 0x3D, 0xDD, 0x81, 0x73, 0xC9, 0xEB,
  0x8A, 0x84, 0x39, 0xF4, 0x36, 0x0B, 0xF7]

/-- `dtm_prbs15_content`. -/
def dtmPrbs15Content : List UInt8 := [
  0xFF, 0x7F, 0x00, 0x20, 0x00, 0x18, 0x00, 0x0A,
  0x80, 0x07, 0x20, 0x02, 0x98, 0x01, 0xAA, 0x80,
  0x7F, 0x20, 0x20, 0x18, 0x18, 0x0A, 0x8A, 0x87,
  0x27, 0x22, 0x9A, 0x99, 0xAB, 0x2A, 0xFF, 0x5F,
  0x00, 0x38, 0x00, 0x12, 0x80, 0x0D, 0xA0, 0x05,
  0xB8, 0x03, 0x32, 0x81, 0xD5, 0xA0, 0x5F, 0x38,
  0x38, 0x12, 0x92, 0x8D, 0xAD, 0xA5, 0xBD, 0xBB,
  0x31, 0xB3, 0x54, 0x75, 0xFF, 0x67, 0x00, 0x2A,
  0x80, 0x1F, 0x20, 0x08, 0x18, 0x06, 0x8A, 0x82,
  0xE7, 0x21, 0x8A, 0x98, 0x67, 0x2A, 0xAA, 0x9F,
  0x3F, 0x28, 0x10, 0x1E, 0x8C, 0x08, 0x65, 0xC6,
  0xAB, 0x12, 0xFF, 0x4D, 0x80, 0x35, 0xA0, 0x17,
  0x38, 0x0E, 0x92, 0x84, 0x6D, 0xA3, 0x6D, 0xB9,
  0xED, 0xB2, 0xCD, 0xB5, 0x95, 0xB7, 0x2F, 0x36,
  0x9C, 0x16, 0xE9, 0xCE, 0xCE, 0xD4, 0x54, 0x5F,
  0x7F, 0x78, 0x20, 0x22, 0x98, 0x19, 0xAA, 0x8A,
  0xFF, 0x27, 0x00, 0x1A, 0x80, 0x0B, 0x20, 0x07,
  0x58, 0x02, 0xBA, 0x81, 0xB3, 0x20, 0x75, 0xD8,
  0x27, 0x1A, 0x9A, 0x8B, 0x2B, 0x27, 0x5F, 0x5A,
  0xB8, 0x3B, 0x32, 0x93, 0x55, 0xAD, 0xFF, 0x3D,
  0x80, 0x11, 0xA0, 0x0C, 0x78, 0x05, 0xE2, 0x83,
  0x09, 0xA1, 0xC6, 0xF8, 0x52, 0xC2, 0xBD, 0x91,
  0xB1, 0xAC, 0x74, 0x7D, 0xE7, 0x61, 0x8A, 0xA8,
  0x67, 0x3E, 0xAA, 0x90, 0x7F, 0x2C, 0x20, 0x1D,
  0xD8, 0x09, 0x9A, 0x86, 0xEB, 0x22, 0xCF, 0x59,
  0x94, 0x3A, 0xEF, 0x53, 0x0C, 0x3D, 0xC5, 0xD1,
  0x93, 0x1C, 0x6D, 0xC9, 0xED, 0x96, 0xCD, 0xAE,
  0xD5, 0xBC, 0x5F, 0x31, 0xF8, 0x14, 0x42, 0x8F,
  0x71, 0xA4, 0x24, 0x7B, 0x5B, 0x63, 0x7B, 0x69,
  0xE3, 0x6E, 0xC9, 0xEC, 0x56, 0xCD, 0xFE, 0xD5,
  0x80, 0x5F, 0x20, 0x38, 0x18, 0x12, 0x8A, 0x8D,
  0xA7, 0x25, 0xBA, 0x9B, 0x33, 0x2B, 0x55]

/-- The largest payload lies inside the table, here and in the next one. -/
theorem length_dtmPrbs9Content : dtmPrbs9Content.length = 255 := by decide +kernel

theorem length_dtmPrbs15Content : dtmPrbs15Content.length = 255 := by decide +kernel

/-- `RFPHY_TEST_0X0F_REF_PATTERN`. -/
def rfphyTest0x0FRefPattern : UInt8 := 0x0F

/-- `RFPHY_TEST_0X55_REF_PATTERN`. -/
def rfphyTest0x55RefPattern : UInt8 := 0x55

/-- `RFPHY_TEST_0XFF_REF_PATTERN`. -/
def rfphyTest0xFFRefPattern : UInt8 := 0xFF

/-- `RFPHY_TEST_0X00_REF_PATTERN`. -/
def rfphyTest0x00RefPattern : UInt8 := 0x00

/-- `RFPHY_TEST_0XF0_REF_PATTERN`. -/
def rfphyTest0xF0RefPattern : UInt8 := 0xF0

/-- `RFPHY_TEST_0XAA_REF_PATTERN`. -/
def rfphyTest0xAARefPattern : UInt8 := 0xAA

end DirectTestMode
