import Iconsmith.Canvas
import Iconsmith.Loading
import Iconsmith.Saving

/-!
Shrinking a bitmap to an icon: load, fit into the canvas, save. The outcome is reported once.
-/

namespace Iconsmith

namespace Shrink

/-- Load, fit and save. -/
def steps (s : Settings) (input output : String) (choices : Png.Choices) :
    Action Failure FitPlan := do
  let image ← Loading.load s input
  let (canvas, plan) ← Canvas.fit s image
  Saving.savePng canvas output choices
  return plan

def run (s : ValidSettings) (input output : String) (choices : Png.Choices := .plain) :
    Action Failure FitPlan :=
  let side := Decimal.text s.val.canvasSize.toNat
  Action.reported .padding
    (fun _ => "✅ 图标已保存为 " ++ output ++ "（" ++ side ++ "x" ++ side ++ "）")
    (fun f => "❌ 图标生成失败：" ++ f.message) (steps s.val input output choices)

end Shrink
end Iconsmith
