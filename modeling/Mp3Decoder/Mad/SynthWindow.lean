import Mathlib.Algebra.Group.Nat.Defs
import Mathlib.Data.Int.Notation
import Mathlib.Data.Nat.Notation

/-!
# The window of the synthesis filter (`D.dat`)

The coefficients of the source, row by row.  `PRESHIFT` takes 14 bits off every magnitude, rounding;
each row has its 16 coefficients twice, so that it can be read from any phase on.
-/

namespace Mp3Decoder

namespace Window

/-- `PRESHIFT(x)` -/
def p (x : ℕ) : ℤ := ((x + 2 ^ 13) / 2 ^ 14 : ℕ)

/-- `-PRESHIFT(x)` -/
def n (x : ℕ) : ℤ := -p x

end Window

open Window in
/-- `D[17][32]` -/
def windowD : List (List ℤ) := [
  [p 0x00000000, n 0x0001d000, p 0x000d5000, n 0x001cb000, p 0x007f5000, n 0x01421000, p 0x019ae000,
    n 0x09271000, p 0x1251e000, p 0x09271000, p 0x019ae000, p 0x01421000, p 0x007f5000,
    p 0x001cb000, p 0x000d5000, p 0x0001d000, p 0x00000000, n 0x0001d000, p 0x000d5000,
    n 0x001cb000, p 0x007f5000, n 0x01421000, p 0x019ae000, n 0x09271000, p 0x1251e000,
    p 0x09271000, p 0x019ae000, p 0x01421000, p 0x007f5000, p 0x001cb000, p 0x000d5000,
    p 0x0001d000],
  [n 0x00001000, n 0x0001f000, p 0x000da000, n 0x00207000, p 0x007d0000, n 0x0158d000, p 0x01747000,
    n 0x099a8000, p 0x124f0000, p 0x08b38000, p 0x01bde000, p 0x012b4000, p 0x0080f000,
    p 0x00191000, p 0x000d0000, p 0x0001a000, n 0x00001000, n 0x0001f000, p 0x000da000,
    n 0x00207000, p 0x007d0000, n 0x0158d000, p 0x01747000, n 0x099a8000, p 0x124f0000,
    p 0x08b38000, p 0x01bde000, p 0x012b4000, p 0x0080f000, p 0x00191000, p 0x000d0000,
    p 0x0001a000],
  [n 0x00001000, n 0x00023000, p 0x000de000, n 0x00245000, p 0x007a0000, n 0x016f7000, p 0x014a8000,
    n 0x0a0d8000, p 0x12468000, p 0x083ff000, p 0x01dd8000, p 0x01149000, p 0x00820000,
    p 0x0015b000, p 0x000ca000, p 0x00018000, n 0x00001000, n 0x00023000, p 0x000de000,
    n 0x00245000, p 0x007a0000, n 0x016f7000, p 0x014a8000, n 0x0a0d8000, p 0x12468000,
    p 0x083ff000, p 0x01dd8000, p 0x01149000, p 0x00820000, p 0x0015b000, p 0x000ca000,
    p 0x00018000],
  [n 0x00001000, n 0x00026000, p 0x000e1000, n 0x00285000, p 0x00765000, n 0x0185d000, p 0x011d1000,
    n 0x0a7fe000, p 0x12386000, p 0x07ccb000, p 0x01f9c000, p 0x00fdf000, p 0x00827000,
    p 0x00126000, p 0x000c4000, p 0x00015000, n 0x00001000, n 0x00026000, p 0x000e1000,
    n 0x00285000, p 0x00765000, n 0x0185d000, p 0x011d1000, n 0x0a7fe000, p 0x12386000,
    p 0x07ccb000, p 0x01f9c000, p 0x00fdf000, p 0x00827000, p 0x00126000, p 0x000c4000,
    p 0x00015000],
  [n 0x00001000, n 0x00029000, p 0x000e3000, n 0x002c7000, p 0x0071e000, n 0x019bd000, p 0x00ec0000,
    n 0x0af15000, p 0x12249000, p 0x075a0000, p 0x0212c000, p 0x00e79000, p 0x00825000,
    p 0x000f4000, p 0x000be000, p 0x00013000, n 0x00001000, n 0x00029000, p 0x000e3000,
    n 0x002c7000, p 0x0071e000, n 0x019bd000, p 0x00ec0000, n 0x0af15000, p 0x12249000,
    p 0x075a0000, p 0x0212c000, p 0x00e79000, p 0x00825000, p 0x000f4000, p 0x000be000,
    p 0x00013000],
  [n 0x00001000, n 0x0002d000, p 0x000e4000, n 0x0030b000, p 0x006cb000, n 0x01b17000, p 0x00b77000,
    n 0x0b619000, p 0x120b4000, p 0x06e81000, p 0x02288000, p 0x00d17000, p 0x0081b000,
    p 0x000c5000, p 0x000b7000, p 0x00011000, n 0x00001000, n 0x0002d000, p 0x000e4000,
    n 0x0030b000, p 0x006cb000, n 0x01b17000, p 0x00b77000, n 0x0b619000, p 0x120b4000,
    p 0x06e81000, p 0x02288000, p 0x00d17000, p 0x0081b000, p 0x000c5000, p 0x000b7000,
    p 0x00011000],
  [n 0x00001000, n 0x00031000, p 0x000e4000, n 0x00350000, p 0x0066c000, n 0x01c67000, p 0x007f5000,
    n 0x0bd06000, p 0x11ec7000, p 0x06772000, p 0x023b3000, p 0x00bbc000, p 0x00809000,
    p 0x00099000, p 0x000b0000, p 0x00010000, n 0x00001000, n 0x00031000, p 0x000e4000,
    n 0x00350000, p 0x0066c000, n 0x01c67000, p 0x007f5000, n 0x0bd06000, p 0x11ec7000,
    p 0x06772000, p 0x023b3000, p 0x00bbc000, p 0x00809000, p 0x00099000, p 0x000b0000,
    p 0x00010000],
  [n 0x00002000, n 0x00035000, p 0x000e3000, n 0x00397000, p 0x005ff000, n 0x01dad000, p 0x0043a000,
    n 0x0c3d9000, p 0x11c83000, p 0x06076000, p 0x024ad000, p 0x00a67000, p 0x007f0000,
    p 0x0006f000, p 0x000a9000, p 0x0000e000, n 0x00002000, n 0x00035000, p 0x000e3000,
    n 0x00397000, p 0x005ff000, n 0x01dad000, p 0x0043a000, n 0x0c3d9000, p 0x11c83000,
    p 0x06076000, p 0x024ad000, p 0x00a67000, p 0x007f0000, p 0x0006f000, p 0x000a9000,
    p 0x0000e000],
  [n 0x00002000, n 0x0003a000, p 0x000e0000, n 0x003df000, p 0x00586000, n 0x01ee6000, p 0x00046000,
    n 0x0ca8d000, p 0x119e9000, p 0x05991000, p 0x02578000, p 0x0091a000, p 0x007d1000,
    p 0x00048000, p 0x000a1000, p 0x0000d000, n 0x00002000, n 0x0003a000, p 0x000e0000,
    n 0x003df000, p 0x00586000, n 0x01ee6000, p 0x00046000, n 0x0ca8d000, p 0x119e9000,
    p 0x05991000, p 0x02578000, p 0x0091a000, p 0x007d1000, p 0x00048000, p 0x000a1000,
    p 0x0000d000],
  [n 0x00002000, n 0x0003f000, p 0x000dd000, n 0x00428000, p 0x00500000, n 0x02011000, n 0x003e6000,
    n 0x0d11e000, p 0x116fc000, p 0x052c5000, p 0x02616000, p 0x007d6000, p 0x007aa000,
    p 0x00024000, p 0x0009a000, p 0x0000b000, n 0x00002000, n 0x0003f000, p 0x000dd000,
    n 0x00428000, p 0x00500000, n 0x02011000, n 0x003e6000, n 0x0d11e000, p 0x116fc000,
    p 0x052c5000, p 0x02616000, p 0x007d6000, p 0x007aa000, p 0x00024000, p 0x0009a000,
    p 0x0000b000],
  [n 0x00002000, n 0x00044000, p 0x000d7000, n 0x00471000, p 0x0046b000, n 0x0212b000, n 0x0084a000,
    n 0x0d78a000, p 0x113be000, p 0x04c16000, p 0x02687000, p 0x0069c000, p 0x0077f000,
    p 0x00002000, p 0x00093000, p 0x0000a000, n 0x00002000, n 0x00044000, p 0x000d7000,
    n 0x00471000, p 0x0046b000, n 0x0212b000, n 0x0084a000, n 0x0d78a000, p 0x113be000,
    p 0x04c16000, p 0x02687000, p 0x0069c000, p 0x0077f000, p 0x00002000, p 0x00093000,
    p 0x0000a000],
  [n 0x00003000, n 0x00049000, p 0x000d0000, n 0x004ba000, p 0x003ca000, n 0x02233000, n 0x00ce4000,
    n 0x0ddca000, p 0x1102f000, p 0x04587000, p 0x026cf000, p 0x0056c000, p 0x0074e000,
    n 0x0001d000, p 0x0008b000, p 0x00009000, n 0x00003000, n 0x00049000, p 0x000d0000,
    n 0x004ba000, p 0x003ca000, n 0x02233000, n 0x00ce4000, n 0x0ddca000, p 0x1102f000,
    p 0x04587000, p 0x026cf000, p 0x0056c000, p 0x0074e000, n 0x0001d000, p 0x0008b000,
    p 0x00009000],
  [n 0x00003000, n 0x0004f000, p 0x000c8000, n 0x00503000, p 0x0031a000, n 0x02326000, n 0x011b5000,
    n 0x0e3dd000, p 0x10c54000, p 0x03f1b000, p 0x026ee000, p 0x00447000, p 0x00719000,
    n 0x00039000, p 0x00084000, p 0x00008000, n 0x00003000, n 0x0004f000, p 0x000c8000,
    n 0x00503000, p 0x0031a000, n 0x02326000, n 0x011b5000, n 0x0e3dd000, p 0x10c54000,
    p 0x03f1b000, p 0x026ee000, p 0x00447000, p 0x00719000, n 0x00039000, p 0x00084000,
    p 0x00008000],
  [n 0x00004000, n 0x00055000, p 0x000bd000, n 0x0054c000, p 0x0025d000, n 0x02403000, n 0x016ba000,
    n 0x0e9be000, p 0x1082d000, p 0x038d4000, p 0x026e7000, p 0x0032e000, p 0x006df000,
    n 0x00053000, p 0x0007d000, p 0x00007000, n 0x00004000, n 0x00055000, p 0x000bd000,
    n 0x0054c000, p 0x0025d000, n 0x02403000, n 0x016ba000, n 0x0e9be000, p 0x1082d000,
    p 0x038d4000, p 0x026e7000, p 0x0032e000, p 0x006df000, n 0x00053000, p 0x0007d000,
    p 0x00007000],
  [n 0x00004000, n 0x0005b000, p 0x000b1000, n 0x00594000, p 0x00192000, n 0x024c8000, n 0x01bf2000,
    n 0x0ef69000, p 0x103be000, p 0x032b4000, p 0x026bc000, p 0x00221000, p 0x006a2000,
    n 0x0006a000, p 0x00075000, p 0x00007000, n 0x00004000, n 0x0005b000, p 0x000b1000,
    n 0x00594000, p 0x00192000, n 0x024c8000, n 0x01bf2000, n 0x0ef69000, p 0x103be000,
    p 0x032b4000, p 0x026bc000, p 0x00221000, p 0x006a2000, n 0x0006a000, p 0x00075000,
    p 0x00007000],
  [n 0x00005000, n 0x00061000, p 0x000a3000, n 0x005da000, p 0x000b9000, n 0x02571000, n 0x0215c000,
    n 0x0f4dc000, p 0x0ff0a000, p 0x02cbf000, p 0x0266e000, p 0x00120000, p 0x00662000,
    n 0x0007f000, p 0x0006f000, p 0x00006000, n 0x00005000, n 0x00061000, p 0x000a3000,
    n 0x005da000, p 0x000b9000, n 0x02571000, n 0x0215c000, n 0x0f4dc000, p 0x0ff0a000,
    p 0x02cbf000, p 0x0266e000, p 0x00120000, p 0x00662000, n 0x0007f000, p 0x0006f000,
    p 0x00006000],
  [n 0x00005000, n 0x00068000, p 0x00092000, n 0x0061f000, n 0x0002d000, n 0x025ff000, n 0x026f7000,
    n 0x0fa13000, p 0x0fa13000, p 0x026f7000, p 0x025ff000, p 0x0002d000, p 0x0061f000,
    n 0x00092000, p 0x00068000, p 0x00005000, n 0x00005000, n 0x00068000, p 0x00092000,
    n 0x0061f000, n 0x0002d000, n 0x025ff000, n 0x026f7000, n 0x0fa13000, p 0x0fa13000,
    p 0x026f7000, p 0x025ff000, p 0x0002d000, p 0x0061f000, n 0x00092000, p 0x00068000,
    p 0x00005000]]

/-- The two halves of each row are the same. -/
theorem windowD_period : ∀ row < 17, ∀ col < 16,
    (windowD.getD row []).getD (col + 16) 0 = (windowD.getD row []).getD col 0 := by decide +kernel

end Mp3Decoder
