import SerialPanel.Fault
namespace SerialPanel

structure Written (σ : Type) where
  result : Except LineFault Unit
  arrived : Bytes
  line : σ

-- An open serial line. Bytes can arrive during a write and during a wait, also
-- one of no milliseconds; both calls hand over what arrived meanwhile, in order.
class Line (σ : Type) where
  write : σ → Bytes → Written σ
  wait : σ → Nat → Bytes × σ

end SerialPanel
