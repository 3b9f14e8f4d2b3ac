namespace DirectoryClient.Tlv

/-- The base-256 digits of `n`, most significant first, without leading zeros; `0` has one digit. -/
def bigEndian (n : Nat) : List UInt8 :=
  if n < 256 then [UInt8.ofNat n] else bigEndian (n / 256) ++ [UInt8.ofNat (n % 256)]
termination_by n

def ofBigEndian (bytes : List UInt8) : Nat :=
  bytes.foldl (fun high byte => high * 256 + byte.toNat) 0

/-- The number of digits, from the bit length. -/
def byteCount (n : Nat) : Nat :=
  n.log2 / 8 + 1

end DirectoryClient.Tlv
