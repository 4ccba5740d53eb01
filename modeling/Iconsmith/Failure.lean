/-!
What can go wrong with an icon, and how it is worded. A failure has a kind, which decides the
label in front of its message, and a detail text; each cause has one constructor function here, so
that every wording stands in one place.
-/

namespace Iconsmith

inductive FailureKind where
  | sourceNotFound
  | invalidFormat
  | render
  | decode
  | encode
  | fileSystem
  | resourceLimit
deriving DecidableEq, Repr

/-- The label that opens the message of a failure. -/
def FailureKind.label : FailureKind → String
  | .sourceNotFound => "文件不存在"
  | .invalidFormat => "格式错误"
  | .render => "渲染错误"
  | .decode => "解码错误"
  | .encode => "编码错误"
  | .fileSystem => "文件错误"
  | .resourceLimit => "资源限制"

structure Failure where
  kind : FailureKind
  detail : String
deriving DecidableEq, Repr

namespace Failure

/-- The full message: the label, a full-width colon, the detail. -/
def message (f : Failure) : String := f.kind.label ++ "：" ++ f.detail

def badSize (text : String) : Failure :=
  ⟨.invalidFormat, "无效尺寸：" ++ text ++ "（示例：512x512）"⟩

def unknownFilter (text : String) : Failure :=
  ⟨.invalidFormat, "未知滤镜：" ++ text ++ "（可选：nearest / triangle / catmullrom / lanczos3）"⟩

def zeroDefaultSize (size : String) : Failure :=
  ⟨.invalidFormat, "default_size 必须为正整数：" ++ size⟩

def zeroCanvas : Failure := ⟨.invalidFormat, "canvas_size 必须为正整数"⟩

def zeroLimit : Failure := ⟨.invalidFormat, "max_file_size / max_decoded_pixels 不能为 0"⟩

end Failure

/-- A failed command. Failures of an icon operation have already been reported where they
happened; the others have not. -/
inductive CommandError where
  | icon (failure : Failure)
  /-- The file system refused; its reason. -/
  | io (reason : String)
  /-- The settings file or the settings cannot be used. -/
  | settings (reason : String)
deriving DecidableEq, Repr

namespace CommandError

def message : CommandError → String
  | icon f => f.message
  | io reason => "文件系统错误: " ++ reason
  | settings reason => "配置错误: " ++ reason

/-- The operation that failed has reported the error. -/
def alreadyReported : CommandError → Bool
  | icon _ => true
  | _ => false

end CommandError
end Iconsmith
