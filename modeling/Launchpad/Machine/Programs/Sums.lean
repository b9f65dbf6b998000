import Launchpad.Digest
import Launchpad.Machine.Inputs

/-!
Programs that print digests and sums of files, and those that check them again.
-/

namespace Launchpad.Machine.Programs

/-- A name as a line with a digest shows it, and whether that line begins with a backslash. -/
def escapedName (name : Octets) : Octets × Bool :=
  let special (c : Char) : Bool := c = '\\' || c = '\n' || c = '\r'
  if name.toList.any special then
    (String.join (name.toList.map fun c =>
      if c = '\\' then "\\\\" else if c = '\n' then "\\n" else if c = '\r' then "\\r"
      else String.ofList [c]), true)
  else (name, false)

def readDigestLine? (tag : Octets) (line : Octets) : Option (Octets × Octets) :=
  let line := if line.startsWith "\\" then (line.drop 1).toString else line
  let mark := tag ++ " ("
  if line.startsWith mark then
    match ((line.drop mark.length).toString.splitOn ") = ").reverse with
    | digest :: name => if name = [] then none
      else some (digest, ") = ".intercalate name.reverse)
    | [] => none
  else
    let isDigit (c : Char) : Bool := c.isDigit || ('a' ≤ c.toLower && c.toLower ≤ 'f')
    let digest := String.ofList (line.toList.takeWhile isDigit)
    match line.toList.drop digest.length with
    | ' ' :: c :: name =>
      if name = [] || (c ≠ ' ' && c ≠ '*') then none else some (digest, String.ofList name)
    | _ => none

/-- Print the digests of files, or check those in a list. -/
def digestWith (tag : Octets) (length : Nat) (f : ByteArray → List UInt8) : Program := do
  let g ← Tool.options
    [.flag 'b' "binary", .flag 'c' "check", .flag 't' "text", .flag 'w' "warn",
      .flag 'z' "zero", .named '\x03' "tag", .named '\x04' "quiet", .named '\x05' "status",
      .named '\x06' "strict", .named '\x07' "ignore-missing"]
  let digestOf (path : Octets) : Tool (Except Errno Octets) := do
    match ← Tool.load path with
    | .ok text => return .ok (Digest.hex (f (Octets.array text)))
    | .error cause => return .error cause.number
  if !g.has 'c' then
    for path in Tool.inputs g.operands do
      match ← digestOf path with
      | .error number => Tool.complain 1 (Quoting.beforeColon path ++ ": " ++ number.text)
      | .ok digest =>
        let lineEnd : Octets := if g.has 'z' then "\x00" else "\n"
        let (name, isEscaped) := if g.has 'z' then (path, false) else escapedName path
        let lead : Octets := if isEscaped then "\\" else ""
        if g.has '\x03' then
          Tool.print (lead ++ tag ++ " (" ++ name ++ ") = " ++ digest ++ lineEnd)
        else
          Tool.print (lead ++ digest ++ (if g.has 'b' then " *" else "  ") ++ name ++ lineEnd)
  else
    for list in Tool.inputs g.operands do
      match ← Tool.load list with
      | .error cause =>
        Tool.complain 1 (Quoting.beforeColon list ++ ": " ++ cause.number.text)
      | .ok text =>
        let mut misformed := 0
        let mut unread := 0
        let mut wrong := 0
        let mut matched := 0
        let mut right := 0
        let say (line : Octets) : Tool Unit :=
          if g.has '\x05' then pure () else Tool.print line
        for line in (linesOf text).1 do
          match (if line.startsWith "#" then none else readDigestLine? tag line) with
          | some (expected, name) =>
            if expected.length ≠ 2 * length then misformed := misformed + 1
            else
              matched := matched + 1
              match ← digestOf name with
              | .error number =>
                if !(g.has '\x07' && number = .noEntry) then
                  Tool.warn (Quoting.beforeColon name ++ ": " ++ number.text)
                  say (name ++ ": FAILED open or read\n")
                  unread := unread + 1
              | .ok digest =>
                if digest = expected.map Char.toLower then
                  right := right + 1
                  if !g.has '\x04' then say (name ++ ": OK\n")
                else
                  say (name ++ ": FAILED\n")
                  wrong := wrong + 1
          | none => if line ≠ "" && !line.startsWith "#" then misformed := misformed + 1
        let warned (n : Nat) (one many : Octets) : Tool Unit :=
          if n > 0 && !g.has '\x05' then
            Tool.warn ("WARNING: " ++ toString n ++ " " ++ (if n = 1 then one else many))
          else pure ()
        if matched = 0 then
          Tool.complain 1 (Quoting.beforeColon list ++ ": no properly formatted " ++
            "checksum lines found")
        else
          warned misformed "line is improperly formatted" "lines are improperly formatted"
          warned unread "listed file could not be read" "listed files could not be read"
          warned wrong "computed checksum did NOT match" "computed checksums did NOT match"
          if g.has '\x07' && right = 0 then
            Tool.warn (Quoting.beforeColon list ++ ": no file was verified")
            Tool.mark 1
          if unread > 0 || wrong > 0 || (misformed > 0 && g.has '\x06') then Tool.mark 1

/-- Print digests of 128 bits. -/
def md5sum : Program := digestWith "MD5" 16 Digest.md5

/-- Print digests of 160 bits. -/
def sha1sum : Program := digestWith "SHA1" 20 Digest.sha1

/-- Print digests of 224 bits. -/
def sha224sum : Program := digestWith "SHA224" 28 Digest.sha224.digest

/-- Print digests of 256 bits. -/
def sha256sum : Program := digestWith "SHA256" 32 Digest.sha256.digest

/-- Print digests of 384 bits. -/
def sha384sum : Program := digestWith "SHA384" 48 Digest.sha384.digest

/-- Print digests of 512 bits. -/
def sha512sum : Program := digestWith "SHA512" 64 Digest.sha512.digest

/-- Print a line for each file, made from its content. -/
def sumWith (g : Given) (line : ByteArray → Octets) : Tool Unit := do
  for path in Tool.inputs g.operands do
    match ← Tool.load path with
    | .error cause => Tool.complain 1 (Quoting.beforeColon path ++ ": " ++ cause.number.text)
    | .ok text =>
      Tool.print (line (Octets.array text) ++ (if g.operands = [] then "" else " " ++ path) ++ "\n")

/-- Print the remainders and sizes of files, or digests of a kind that is asked for. -/
def cksum : Program := do
  let g ← Tool.options
    [.valued 'a' "algorithm", .named '\x03' "tag", .named '\x04' "untagged"]
  match g.value? 'a' with
  | none => sumWith g fun bytes =>
      toString (Digest.check bytes) ++ " " ++ toString bytes.size
  | some kind =>
    let digest? : Option (Octets × (ByteArray → List UInt8)) := match kind with
      | "md5" => some ("MD5", Digest.md5)
      | "sha1" => some ("SHA1", Digest.sha1)
      | "sha224" => some ("SHA224", Digest.sha224.digest)
      | "sha256" => some ("SHA256", Digest.sha256.digest)
      | "sha384" => some ("SHA384", Digest.sha384.digest)
      | "sha512" => some ("SHA512", Digest.sha512.digest)
      | _ => none
    match digest? with
    | none => Tool.failWithHint 1 ("invalid argument " ++ Quoting.plain kind ++ " for " ++
        Quoting.plain "--algorithm")
    | some (tag, f) =>
      for path in Tool.inputs g.operands do
        match ← Tool.load path with
        | .error cause => Tool.complain 1 (Quoting.beforeColon path ++ ": " ++ cause.number.text)
        | .ok text =>
          let digest := Digest.hex (f (Octets.array text))
          Tool.print (if g.has '\x04' then digest ++ "  " ++ path ++ "\n"
            else tag ++ " (" ++ path ++ ") = " ++ digest ++ "\n")

def sum : Program := do
  let g ← Tool.options [.flag 'r', .flag 's' "sysv"]
  if g.has 's' then
    sumWith g fun bytes =>
      toString (Digest.foldedSum bytes) ++ " " ++ toString ((bytes.size + 511) / 512)
  else
    sumWith g fun bytes =>
      padLeft 5 (toString (Digest.turnedSum bytes)) '0' ++ " " ++
        padLeft 5 (toString ((bytes.size + 1023) / 1024))

/-- An alphabet that stands for groups of bits: its letters, how many bits each stands for, and how
many letters belong together. -/
structure Alphabet where
  letters : List Char
  bits : Nat
  group : Nat

/-- Letters for six bits each. -/
def alphabet64 : Alphabet where
  letters := "ABCDEFGHIJKLMNOPQRSTUVWXYZabcdefghijklmnopqrstuvwxyz0123456789+/".toList
  bits := 6
  group := 4

/-- Letters for five bits each. -/
def alphabet32 : Alphabet where
  letters := "ABCDEFGHIJKLMNOPQRSTUVWXYZ234567".toList
  bits := 5
  group := 8

namespace Alphabet

def bytesInGroup (a : Alphabet) : Nat := a.bits * a.group / 8

/-- The letters for at most one group of bytes, filled up with signs of equality. -/
def encodeGroup (a : Alphabet) (bytes : List UInt8) : List Char :=
  let size := a.bytesInGroup
  let n := Digest.bigEndian (bytes ++ List.replicate (size - bytes.length) 0)
  let used := (8 * bytes.length + a.bits - 1) / a.bits
  (List.range a.group).map fun k =>
    if k < used then
      (a.letters[(n >>> (a.bits * (a.group - 1 - k))) % Digest.twoTo a.bits]?).getD '?'
    else '='

def encode (a : Alphabet) (bytes : ByteArray) : List Char :=
  let size := a.bytesInGroup
  (List.range ((bytes.size + size - 1) / size)).flatMap fun k =>
    a.encodeGroup (bytes.extract (k * size) (k * size + size)).toList

def decodeGroup? (a : Alphabet) (letters : List Char) : Option (List UInt8) := do
  let used := letters.takeWhile (· ≠ '=')
  if letters.length ≠ a.group || (letters.drop used.length).any (· ≠ '=') then none
  let values ← used.mapM fun c => a.letters.idxOf? c
  let count := values.length * a.bits / 8
  if count = 0 || (8 * count + a.bits - 1) / a.bits ≠ values.length then none
  let n := values.foldl (fun n v => n * Digest.twoTo a.bits + v) 0
  some (Digest.bytesOf count (n >>> (values.length * a.bits - 8 * count)))

/-- The bytes that letters stand for, up to the first group that stands for none; the answer tells
whether there is one. -/
def decode (a : Alphabet) (letters : List Char) : List UInt8 × Bool :=
  let groups := (List.range ((letters.length + a.group - 1) / a.group)).map fun k =>
    a.decodeGroup? ((letters.drop (k * a.group)).take a.group)
  ((groups.takeWhile Option.isSome).flatMap (·.getD []), groups.any Option.isNone)

end Alphabet

/-- Write bytes by letters, or read them back. -/
def lettersWith (a : Alphabet) : Program := do
  let g ← Tool.options
    [.flag 'd' "decode", .flag 'i' "ignore-garbage", .valued 'w' "wrap"]
  let width ← match g.value? 'w' with
    | none => pure 76
    | some text =>
      match natural? text.toList with
      | some n => pure n
      | none => Tool.fail 1 ("invalid wrap size: " ++ Quoting.plain text)
  match g.operands with
  | _ :: extra :: _ => Tool.failWithHint 1 ("extra operand " ++ Quoting.plain extra)
  | operands =>
    let path := operands.headD "-"
    match ← Tool.load path with
    | .error (.closed number) => Tool.fail 1 (Quoting.beforeColon path ++ ": " ++ number.text)
    | .error (.unread number) => Tool.fail 1 ("read error: " ++ number.text)
    | .ok text =>
      if g.has 'd' then
        let letters := text.toList.filter fun c =>
          c ≠ '\n' && (!g.has 'i' || c = '=' || a.letters.contains c)
        let (bytes, isWrong) := a.decode letters
        Tool.print (Octets.ofBytes bytes)
        if isWrong then Tool.fail 1 "invalid input"
      else
        let letters := a.encode (Octets.array text)
        if width = 0 then Tool.print (String.ofList letters)
        else
          let lines := (List.range ((letters.length + width - 1) / width)).map fun k =>
            String.ofList ((letters.drop (k * width)).take width)
          Tool.print (unlines lines)

/-- Write bytes by letters for six bits. -/
def base64 : Program := lettersWith alphabet64

/-- Write bytes by letters for five bits. -/
def base32 : Program := lettersWith alphabet32

end Launchpad.Machine.Programs
