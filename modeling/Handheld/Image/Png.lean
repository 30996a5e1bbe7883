import Handheld.Image

/-!
# Images as files

An image is written as a PNG file: a header, the rows from the top down, each behind a byte that
says that it is not filtered, and an end mark. The rows are stored and not compressed, in blocks
of at most 65535 bytes. Every chunk ends in a check sum over its kind and content, and the rows
as a whole in another.

## Contents

* `Check.crc`, `Check.adler`: the two check sums.
* `stored`: bytes as uncompressed blocks.
* `Image.png`: the file of an image.
-/

namespace Handheld

namespace Check

/-- One bit of the polynomial division behind the cyclic check sum. -/
def crcBit (r : UInt32) : UInt32 :=
  if r &&& 1 = 1 then (r >>> 1) ^^^ 0xedb88320 else r >>> 1

def crcByte (r : UInt32) (b : UInt8) : UInt32 :=
  let s := r ^^^ b.toUInt32
  crcBit (crcBit (crcBit (crcBit (crcBit (crcBit (crcBit (crcBit s)))))))

/-- The cyclic check sum of bytes. -/
def crc (bytes : ByteArray) : UInt32 :=
  bytes.foldl crcByte 0xffffffff ^^^ 0xffffffff

def adlerByte (sums : Nat × Nat) (b : UInt8) : Nat × Nat :=
  let low := (sums.1 + b.toNat) % 65521
  (low, (sums.2 + low) % 65521)

/-- The running sums of bytes. -/
def adler (bytes : ByteArray) : UInt32 :=
  let sums := bytes.foldl adlerByte (1, 0)
  UInt32.ofNat (sums.2 * 65536 + sums.1)

end Check

/-- A number in four bytes, the highest first. -/
def bigEndian (n : UInt32) : ByteArray :=
  ⟨#[(n >>> 24).toUInt8, (n >>> 16).toUInt8, (n >>> 8).toUInt8, n.toUInt8]⟩

def blockHeader (last : Bool) (size : Nat) : ByteArray :=
  let low := UInt8.ofNat (size % 256)
  let high := UInt8.ofNat (size / 256)
  ⟨#[if last then 1 else 0, low, high, 255 - low, 255 - high]⟩

/-- Bytes as uncompressed blocks, up to a number of them. -/
def storedUpTo : Nat → ByteArray → ByteArray
  | 0, bytes => blockHeader true bytes.size ++ bytes
  | n + 1, bytes =>
    if bytes.size ≤ 65535 then blockHeader true bytes.size ++ bytes
    else
      blockHeader false 65535 ++ bytes.extract 0 65535
        ++ storedUpTo n (bytes.extract 65535 bytes.size)

/-- Bytes as a stream of uncompressed blocks with its header and check sum. -/
def stored (bytes : ByteArray) : ByteArray :=
  ⟨#[0x78, 0x01]⟩ ++ storedUpTo (bytes.size / 65535) bytes ++ bigEndian (Check.adler bytes)

/-- A chunk of a file: its size, its kind, its content and a check sum. -/
def chunk (kind : String) (content : ByteArray) : ByteArray :=
  let body := kind.toUTF8 ++ content
  bigEndian (UInt32.ofNat content.size) ++ body ++ bigEndian (Check.crc body)

namespace Image

def pixelBytes (p : Rgba) : ByteArray := ⟨#[p.red, p.green, p.blue, p.alpha]⟩

/-- The bytes of a row, behind the byte for no filter. -/
def rowBytes (img : Image) (y : Nat) : ByteArray :=
  (List.range img.width).foldl
    (fun bytes x => bytes ++ pixelBytes ((img.get? x y).getD .transparent)) ⟨#[0]⟩

def rows (img : Image) : ByteArray :=
  (List.range img.height).foldl (fun bytes y => bytes ++ img.rowBytes y) .empty

/-- The header of an image: its size, eight bits a channel, four channels. -/
def header (img : Image) : ByteArray :=
  bigEndian (UInt32.ofNat img.width) ++ bigEndian (UInt32.ofNat img.height)
    ++ ⟨#[8, 6, 0, 0, 0]⟩

/-- The file of an image. -/
def png (img : Image) : ByteArray :=
  ⟨#[0x89, 0x50, 0x4e, 0x47, 0x0d, 0x0a, 0x1a, 0x0a]⟩ ++ chunk "IHDR" img.header
    ++ chunk "IDAT" (stored img.rows) ++ chunk "IEND" .empty

end Image

end Handheld
