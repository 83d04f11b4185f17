import Mathlib.Algebra.Order.Ring.Int
import Ktstr.Library.Machine

/-! The token bucket of `virtio_blk/throttle.rs`. Time is a monotone nanosecond
count; every method that reads the clock takes the instant it read. -/
namespace Ktstr.Source.Throttle
open Library.Machine

structure TokenBucket where
  capacity : Nat
  refillRate : Nat
  available : Int
  lastRefill : Nat
  unlimited : Bool
deriving Repr,DecidableEq

def nanosPerSec : Nat := 1000000000

def TokenBucket.mkUnlimited (now : Nat) : TokenBucket := ⟨0,0,0,now,true⟩

def TokenBucket.new (capacity refillRatePerSec now : Nat) : TokenBucket :=
  if capacity = 0 ∨ refillRatePerSec = 0 then .mkUnlimited now
  else ⟨capacity,refillRatePerSec,(tryI64 capacity).getD i64Max,now,false⟩

variable (self : TokenBucket) (now : Nat)

def TokenBucket.refill : TokenBucket :=
  if self.unlimited then self
  else
    let elapsedNs := now - self.lastRefill
    if elapsedNs = 0 then self
    else
      let newTokens := self.refillRate * elapsedNs % 2 ^ 128 / nanosPerSec
      let newTokensU64 := min newTokens u64Max
      if newTokensU64 = 0 then self
      else
        let add := (tryI64 newTokensU64).getD i64Max
        let capI64 := (tryI64 self.capacity).getD i64Max
        {self with available := min (saturateI64 (self.available + add)) capI64,lastRefill := now}

variable (n : Nat)

/-- A request over the capacity is granted from any balance that is not in debt. -/
def TokenBucket.affords (nSigned : Int) : Bool :=
  if n > self.capacity then decide (self.available ≥ 0) else decide (self.available ≥ nSigned)

def TokenBucket.consume : TokenBucket × Bool :=
  if self.unlimited then (self,true)
  else if n = 0 then (self,true)
  else
    let self := self.refill now
    match tryI64 n with
    | none => (self,false)
    | some nSigned =>
      if self.affords n nSigned then
        ({self with available := saturateI64 (self.available - nSigned)},true)
      else (self,false)

def TokenBucket.canConsume : TokenBucket × Bool :=
  if self.unlimited then (self,true)
  else if n = 0 then (self,true)
  else
    let self := self.refill now
    match tryI64 n with
    | none => (self,false)
    | some nSigned => (self,self.affords n nSigned)

def TokenBucket.nanosUntilNTokens (need : Nat) : TokenBucket × Nat :=
  if self.unlimited ∨ need = 0 then (self,0)
  else
    let self := self.refill now
    let wait (deficit : Int) : Nat :=
      min ((deficit.toNat * nanosPerSec + self.refillRate - 1) / self.refillRate) u64Max
    if need > self.capacity then
      if self.available ≥ 0 then (self,0) else (self,wait (-self.available))
    else if self.available ≥ (need : Int) then (self,0)
    else (self,wait ((need : Int) - self.available))

/-- Limits of a disk; a rate or a burst that is present is non-zero. -/
structure DiskThrottle where
  iops : Option {rate : Nat // 0 < rate}
  bytesPerSec : Option {rate : Nat // 0 < rate}
  iopsBurstCapacity : Option {burst : Nat // 0 < burst}
  bytesBurstCapacity : Option {burst : Nat // 0 < burst}
deriving DecidableEq

def bucketFor (rate burst : Option {value : Nat // 0 < value}) (now : Nat) : TokenBucket :=
  match rate with
  | none => .mkUnlimited now
  | some r => .new ((burst.map Subtype.val).getD r) r now

def bucketsFromThrottle (throttle : DiskThrottle) (now : Nat) : TokenBucket × TokenBucket :=
  (bucketFor throttle.iops throttle.iopsBurstCapacity now,
    bucketFor throttle.bytesPerSec throttle.bytesBurstCapacity now)

end Ktstr.Source.Throttle
