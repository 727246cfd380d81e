import Dissect.Output.Store
import Dissect.Proofs.Json.RoundTrip

namespace Dissect.FileTree

open Text

def Holds (files : FileTree) (path : Path) (v : Json) : Prop :=
  ∃ content text, files.read path = .ok content ∧ Text.read content = .ok text ∧
    Json.parse text = .ok v

theorem holds_of_read {files : FileTree} {path : Path} {v : Json}
    (hv : Json.Plain Json.nestingLimit v)
    (h : files.read path = .ok (Utf8.encode v.indented)) : files.Holds path v :=
  ⟨_, _, h, Json.read_encode_indented hv, Json.parse_indented hv⟩

end Dissect.FileTree
