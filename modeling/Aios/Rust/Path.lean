import Aios.Rust.Basic
import Mathlib.Data.UInt

/-! # Paths on Unix

`std::path`: a path is a string of bytes, read as a list of components. Bytes that are not UTF-8 are
shown as U+FFFD, one for each maximal incomplete sequence.
-/

namespace Aios.Rust

/-- An `OsStr`. -/
abbrev OsString := List UInt8

def OsString.ofString (text : String) : OsString := text.toList.flatMap String.utf8EncodeChar

/-! ## Lossy decoding -/

/-- A sequence of which bytes are still to come: what the bytes so far say, how many are missing, and
the range of the next one. -/
structure PendingChar where
  value : ℕ
  missing : ℕ
  low : UInt8
  high : UInt8

/-- What a first byte of two or more opens. -/
def PendingChar.start (byte : UInt8) : Option PendingChar :=
  if 0xC2 ≤ byte && byte ≤ 0xDF then some ⟨byte.toNat % 32, 1, 0x80, 0xBF⟩
  else if byte == 0xE0 then some ⟨0, 2, 0xA0, 0xBF⟩
  else if byte == 0xED then some ⟨13, 2, 0x80, 0x9F⟩
  else if 0xE1 ≤ byte && byte ≤ 0xEF then some ⟨byte.toNat % 16, 2, 0x80, 0xBF⟩
  else if byte == 0xF0 then some ⟨0, 3, 0x90, 0xBF⟩
  else if 0xF1 ≤ byte && byte ≤ 0xF3 then some ⟨byte.toNat % 8, 3, 0x80, 0xBF⟩
  else if byte == 0xF4 then some ⟨4, 3, 0x80, 0x8F⟩
  else none

def REPLACEMENT_CHARACTER : Char := '\uFFFD'

def decodeLossy : Option PendingChar → OsString → List Char
  | none, [] => []
  | some _, [] => [REPLACEMENT_CHARACTER]
  | pending, byte :: rest =>
    -- a byte that does not continue the pending sequence ends it and is read afresh
    let afresh : List Char :=
      if byte < 0x80 then Char.ofNat byte.toNat :: decodeLossy none rest
      else match PendingChar.start byte with
        | some opened => decodeLossy (some opened) rest
        | none => REPLACEMENT_CHARACTER :: decodeLossy none rest
    match pending with
    | none => afresh
    | some sequence =>
      if sequence.low ≤ byte && byte ≤ sequence.high then
        let value := sequence.value * 64 + byte.toNat % 64
        if sequence.missing ≤ 1 then Char.ofNat value :: decodeLossy none rest
        else decodeLossy (some ⟨value, sequence.missing - 1, 0x80, 0xBF⟩) rest
      else REPLACEMENT_CHARACTER :: afresh

/-- `OsStr::to_string_lossy`, which is also what `Path::display` shows. -/
def OsString.toStringLossy (text : OsString) : String := String.ofList (decodeLossy none text)

/-! ## Components -/

/-- `std::path::Component`; Unix has no prefixes. -/
inductive Component where
  | rootDir
  | curDir
  | parentDir
  | normal (name : OsString)
deriving DecidableEq

abbrev Path := OsString

namespace Path

/-- `/`. -/
def SEPARATOR : UInt8 := 0x2F

/-- `.`. -/
def DOT : UInt8 := 0x2E

def hasRoot (path : Path) : Bool := path.head? == some SEPARATOR

/-- One piece between separators; empty pieces and `.` are no components. -/
def parseComponent (piece : OsString) : Option Component :=
  if piece = [] ∨ piece = [DOT] then none
  else if piece = [DOT, DOT] then some .parentDir
  else some (.normal piece)

/-- What a path begins with: the root, or a `.` that stands first. -/
def leading (path : Path) : List Component :=
  if path.hasRoot then [.rootDir]
  else if (path.splitOn SEPARATOR).head? = some [DOT] then [.curDir]
  else []

/-- `Path::components`. -/
def components (path : Path) : List Component :=
  path.leading ++ (path.splitOn SEPARATOR).filterMap parseComponent

/-- `Path::starts_with`: whole components are compared. -/
def startsWith (path base : Path) : Bool := base.components.isPrefixOf path.components

/-- `PartialEq for Path`. -/
def same (path other : Path) : Bool := path.components == other.components

def display (path : Path) : String := OsString.toStringLossy path

end Path

end Aios.Rust
