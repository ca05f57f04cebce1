import PackageClosure.Path.Basic
import PackageClosure.Text.Raw

set_option autoImplicit false

namespace PackageClosure

-- Paths and names are raw texts. A path that is written somewhere is a text and becomes raw when it
-- is followed.
def Path.raw (path : Path) : Path := ⟨Text.raw path.text⟩

def Path.shown (path : Path) : String := Text.shown path.text

def Path.IsText (path : Path) : Prop := Text.raw path.shown = path.text

instance (path : Path) : Decidable path.IsText := by
  unfold Path.IsText
  infer_instance

namespace Name

def bytes (name : Name) : Bytes := Text.rawBytes name.text.toList

-- The name is the one that its bytes spell, as the names of files are.
def IsRaw (name : Name) : Prop := String.ofList (Text.rawText name.bytes) = name.text

def replacement : Name := ⟨"\uFFFD", by decide⟩

def shown (name : Name) : Name :=
  (ofString? (Text.raw (Text.shown name.text))).getD replacement

def IsText (name : Name) : Prop := Text.raw (Text.shown name.text) = name.text

instance (name : Name) : Decidable name.IsText := by
  unfold IsText
  infer_instance

end Name

end PackageClosure
