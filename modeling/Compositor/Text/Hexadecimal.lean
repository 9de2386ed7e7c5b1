namespace Compositor.Text

/-- The digits of `n`, with zeros in front up to `width` digits. -/
def hex (n : Nat) (width : Nat) : String :=
  let digits := Nat.toDigits 16 n
  "0x" ++ String.ofList (List.replicate (width - digits.length) '0' ++ digits)

/-- A resource identifier, always with eight digits. -/
def hexId (id : UInt32) : String := hex id.toNat 8

end Compositor.Text
