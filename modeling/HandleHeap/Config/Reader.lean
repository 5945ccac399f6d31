import HandleHeap.Config

/-!
# Reading a configuration

A configuration is written in JSON: an object whose keys name the settings, or an array that gives
them in order. Settings left out take their defaults.

The text is read from left to right, and the first thing that is wrong decides the error:
* `unfinished`: the text ends too early;
* `malformed`: it is not JSON. So are a number that no 64-bit float can hold, and anything after
  the configuration;
* `mismatch`: it is JSON, but a setting has the wrong type or range, or a key is unknown or
  repeated.

Only integers without sign, fraction and exponent are integers here. Any other number is a float,
and so is an integer of more than 64 bits.

`Config.read` is the reader; the other definitions are its parts.
-/

namespace HandleHeap.Config

/-- What is wrong with the text of a configuration. -/
inductive ReadError
  | unfinished
  | malformed
  | mismatch
  deriving DecidableEq, Repr

/-- A reader of a text given as bytes: it takes bytes off the front. -/
abbrev Reader (α : Type) : Type := StateT (List UInt8) (Except ReadError) α

namespace Reader

/-! ## Bytes -/

/-- Whether a byte may stand between the parts of the text: blank, tab or line end. -/
def isBlank (byte : UInt8) : Bool := byte = 0x20 || byte = 0x09 || byte = 0x0a || byte = 0x0d

def isDigit (byte : UInt8) : Bool := 0x30 ≤ byte && byte ≤ 0x39

/-- The next byte, which is left where it is. -/
def peek : Reader (Option UInt8) := return (← get).head?

def drop : Reader Unit := modify List.tail

/-- Skips blanks and shows the byte after them. -/
def peekToken : Reader (Option UInt8) := do
  modify fun bytes => bytes.dropWhile isBlank
  peek

def digits : Reader (List UInt8) := do
  let bytes ← get
  set (bytes.dropWhile isDigit)
  return bytes.takeWhile isDigit

def word : List Char → Reader Unit
  | [] => return
  | letter :: letters => do
    match ← peek with
    | none => throw .unfinished
    | some byte =>
      if byte = letter.toUInt8 then
        drop
        word letters
      else throw .malformed

/-! ## Numbers -/

/-- A number as far as a setting can tell: an integer without sign, or any other. -/
inductive Number
  | natural (n : Nat)
  | other

/-- Appends decimal digits to a number while it fits in 64 bits. Also gives how many digits were
left out. -/
def appendDigits (n : Nat) : List UInt8 → Nat × Nat
  | [] => (n, 0)
  | digit :: rest =>
    let longer := n * 10 + (digit.toNat - 0x30)
    if longer < 0x10000000000000000 then appendDigits longer rest else (n, rest.length + 1)

/-- A number rounded to 53 significant bits, a tie to the even one. -/
def round53 (n : Nat) : Nat :=
  let excess := n.log2 + 1 - 53
  let unit := 1 <<< excess
  let quotient := n / unit
  let twice := n % unit * 2
  let up := unit < twice || (twice = unit && quotient % 2 = 1)
  (quotient + up.toNat) * unit

/-- Whether `significand * 10 ^ exponent` is beyond the 64-bit floats when the significand and
the power of ten are rounded first and their product is rounded again. -/
def tooLarge (significand : Nat) (exponent : Int) : Bool :=
  significand ≠ 0 &&
    match exponent with
    | .ofNat power =>
      308 < power || 1 <<< 1024 - 1 <<< 970 ≤ round53 significand * round53 (Nat.pow 10 power)
    | .negSucc _ => false

/-- Reads the fraction of a number, after its point. Gives the longer significand and the number
of digits that lengthened it. -/
def fraction (significand : Nat) : Reader (Nat × Nat) := do
  let decimals ← digits
  if decimals.isEmpty then
    match ← peek with
    | none => throw .unfinished
    | some _ => throw .malformed
  else
    let (longer, left) := appendDigits significand decimals
    return (longer, decimals.length - left)

/-- Reads the exponent of a number, after its letter. -/
def exponent : Reader Int := do
  let sign ← peek
  let negative := sign = some 0x2d
  if negative || sign = some 0x2b then drop
  match ← peek with
  | none => throw .unfinished
  | some byte =>
    if isDigit byte then
      let all ← digits
      let size := all.foldl (fun n digit => n * 10 + (digit.toNat - 0x30)) 0
      return if negative then -Int.ofNat size else Int.ofNat size
    else throw .malformed

/-- Reads what follows the integer part of a number. `left` digits of that part did not fit into
the significand. -/
def numberTail (negative : Bool) (significand left : Nat) : Reader Number := do
  let pointed := (← peek) = some 0x2e
  let (longer, decimals) ←
    if pointed then
      drop
      fraction significand
    else pure (significand, 0)
  let next ← peek
  let scaled := next = some 0x65 || next = some 0x45
  let power ←
    if scaled then
      drop
      exponent
    else pure 0
  if pointed || scaled || left ≠ 0 then
    if tooLarge longer (Int.ofNat left - Int.ofNat decimals + power) then throw .malformed
    return .other
  return if negative then .other else .natural significand

/-- Reads a number after its sign, if it had one. -/
def unsigned (negative : Bool) : Reader Number := do
  match ← get with
  | [] => throw .unfinished
  | byte :: rest =>
    if byte = 0x30 then
      if (rest.head?.map isDigit).getD false then throw .malformed
      drop
      numberTail negative 0 0
    else if isDigit byte then
      let (significand, left) := appendDigits 0 (← digits)
      numberTail negative significand left
    else throw .malformed

def number : Reader Number := do
  if (← peek) = some 0x2d then
    drop
    unsigned true
  else unsigned false

/-! ## Texts -/

/-- Where in a text between quotes the reader is. -/
inductive Place
  | plain
  /-- After a backslash. -/
  | escape
  /-- Among the four digits of an escaped code unit. `high` is the unit of a pair before it. -/
  | unit (left value : Nat) (high : Option Nat)
  /-- After the first unit of a pair: the backslash of the second one is due. -/
  | pairEscape (high : Nat)
  /-- After that backslash: its letter is due. -/
  | pairLetter (high : Nat)

def hexDigit? (byte : UInt8) : Option Nat :=
  if isDigit byte then some (byte.toNat - 0x30)
  else if 0x61 ≤ byte && byte ≤ 0x66 then some (byte.toNat - 0x61 + 10)
  else if 0x41 ≤ byte && byte ≤ 0x46 then some (byte.toNat - 0x41 + 10)
  else none

/-- What a backslash and a letter stand for. -/
def escaped? (letter : UInt8) : Option Nat :=
  if letter = 0x22 || letter = 0x5c || letter = 0x2f then some letter.toNat
  else if letter = 0x62 then some 0x08
  else if letter = 0x66 then some 0x0c
  else if letter = 0x6e then some 0x0a
  else if letter = 0x72 then some 0x0d
  else if letter = 0x74 then some 0x09
  else none

/-- What to do with a complete escaped code unit: the character, or where to read on. -/
def unitDone (value : Nat) : Option Nat → Except ReadError (Option Nat × Place)
  | none =>
    if 0xdc00 ≤ value && value ≤ 0xdfff then .error .malformed
    else if 0xd800 ≤ value && value ≤ 0xdbff then .ok (none, .pairEscape value)
    else .ok (some value, .plain)
  | some high =>
    if 0xdc00 ≤ value && value ≤ 0xdfff then
      .ok (some (0x10000 + (high - 0xd800) * 0x400 + (value - 0xdc00)), .plain)
    else .error .malformed

/-- Reads a text after its opening quote. Bytes beyond the ASCII ones stand for themselves. The
four digits of an escaped code unit must be there before they are looked at. -/
def textFrom : (place : Place) → (bytes : List UInt8) → Except ReadError (List Nat × List UInt8)
  | _, [] => .error .unfinished
  | .plain, byte :: rest =>
    if byte = 0x22 then .ok ([], rest)
    else if byte = 0x5c then textFrom .escape rest
    else if byte < 0x20 then .error .malformed
    else do
      let (characters, rest) ← textFrom .plain rest
      return (byte.toNat :: characters, rest)
  | .escape, byte :: rest =>
    if byte = 0x75 then
      if (rest.take 4).length < 4 then .error .unfinished
      else textFrom (.unit 4 0 none) rest
    else
      match escaped? byte with
      | none => .error .malformed
      | some character => do
        let (characters, rest) ← textFrom .plain rest
        return (character :: characters, rest)
  | .unit left value high, byte :: rest =>
    match hexDigit? byte with
    | none => .error .malformed
    | some digit =>
      let value := value * 16 + digit
      if 1 < left then textFrom (.unit (left - 1) value high) rest
      else do
        let (character, place) ← unitDone value high
        let (characters, rest) ← textFrom place rest
        return (character.toList ++ characters, rest)
  | .pairEscape high, byte :: rest =>
    if byte = 0x5c then textFrom (.pairLetter high) rest else .error .malformed
  | .pairLetter high, byte :: rest =>
    if byte = 0x75 then
      if (rest.take 4).length < 4 then .error .unfinished
      else textFrom (.unit 4 0 (some high)) rest
    else .error .malformed

def text : Reader (List Nat) := fun bytes => textFrom .plain bytes

/-! ## Settings -/

/-- Reads a value that is not what a setting needs. Where the value itself is well formed that is
a mismatch. A list or an object is refused without reading it. -/
def wrongType {α : Type} (byte : UInt8) : Reader α := do
  if byte = 0x6e then word "null".toList
  else if byte = 0x74 then word "true".toList
  else if byte = 0x66 then word "false".toList
  else if byte = 0x2d || isDigit byte then let _ ← number
  else if byte = 0x22 then
    drop
    let _ ← text
  else if byte ≠ 0x5b && byte ≠ 0x7b then throw .malformed
  throw .mismatch

def natural (bound : Nat) : Reader Nat := do
  match ← peekToken with
  | none => throw .unfinished
  | some byte =>
    if byte = 0x2d || isDigit byte then
      match ← number with
      | .natural n => if n < bound then return n else throw .mismatch
      | .other => throw .mismatch
    else wrongType byte

/-- Reads an integer below a bound, or `null` for none. -/
def optional (bound : Nat) : Reader (Option Nat) := do
  if (← peekToken) = some 0x6e then
    word "null".toList
    return none
  else return some (← natural bound)

inductive Key
  | arenaCapacity
  | initialHandles
  | maxHandles
  | shapeHashBits
  deriving DecidableEq

def Key.name : Key → String
  | arenaCapacity => "arena_capacity"
  | initialHandles => "initial_handles"
  | maxHandles => "max_handles"
  | shapeHashBits => "shape_hash_bits"

/-- All settings, in the order of the array form. -/
def Key.all : List Key := [arenaCapacity, initialHandles, maxHandles, shapeHashBits]

/-- Reads the value of a setting into a configuration. -/
def setting (config : Config) : Key → Reader Config
  | .arenaCapacity => return { config with arenaCapacity := ← natural 0x10000000000000000 }
  | .initialHandles => return { config with initialHandles := ← natural 0x10000000000000000 }
  | .maxHandles => do
    let max ← optional 0x100000000
    return { config with maxHandles := max.map UInt32.ofNat }
  | .shapeHashBits => return { config with shapeHashBits := UInt8.ofNat (← natural 0x100) }

/-! ## The array form -/

/-- Reads the values of the settings listed, up to the end of the array. A comma comes before
every value but the first. -/
def items (config : Config) : (first : Bool) → List Key → Reader Config
  | _, [] => do
    match ← peekToken with
    | none => throw .unfinished
    | some byte =>
      if byte = 0x5d then
        drop
        return config
      else throw .malformed
  | first, key :: keys => do
    match ← peekToken with
    | none => throw .unfinished
    | some byte =>
      if byte = 0x5d then
        drop
        return config
      else
        unless first do
          if byte ≠ 0x2c then throw .malformed
          drop
          if (← peekToken) = some 0x5d then throw .malformed
        items (← setting config key) false keys

/-! ## The object form -/

/-- Moves to the opening quote of the next key. A comma comes before every key but the first. -/
def toKey (first : Bool) (byte : UInt8) : Reader Unit := do
  if first then
    if byte ≠ 0x22 then throw .malformed
  else
    if byte ≠ 0x2c then throw .malformed
    drop
    match ← peekToken with
    | none => throw .unfinished
    | some byte => if byte ≠ 0x22 then throw .malformed

/-- Reads entries up to the end of the object. `unseen` are the settings not yet given; no entry
can follow when there are none. -/
def entries (config : Config) (first : Bool) (unseen : List Key) : (room : Nat) → Reader Config
  | 0 => throw .mismatch
  | room + 1 => do
    match ← peekToken with
    | none => throw .unfinished
    | some byte =>
      if byte = 0x7d then
        drop
        return config
      else
        toKey first byte
        drop
        let name ← text
        match unseen.find? fun key => key.name.toList.map Char.toNat = name with
        | none => throw .mismatch
        | some key =>
          match ← peekToken with
          | none => throw .unfinished
          | some byte =>
            if byte ≠ 0x3a then throw .malformed
            drop
            entries (← setting config key) false (unseen.erase key) room

/-- Reads a configuration, and nothing may follow it. -/
def document : Reader Config := do
  let config ←
    match ← peekToken with
    | none => throw .unfinished
    | some byte =>
      if byte = 0x5b then
        drop
        items {} true Key.all
      else if byte = 0x7b then
        drop
        entries {} true Key.all (Key.all.length + 1)
      else wrongType byte
  match ← peekToken with
  | none => return config
  | some _ => throw .malformed

end Reader

def read (text : String) : Except ReadError Config :=
  (Reader.document.run text.toUTF8.data.toList).map Prod.fst

end HandleHeap.Config
