import InteractionKit.Component.Basic
/-
Short ways to put components together.
-/
namespace InteractionKit

namespace Component

def row (components : List Component) : Component := .actionRow (.new components)

/-- a button with a name that sends an interaction -/
def pressButton (style : ButtonStyle) (label customId : String) : Component :=
  .button { Button.new style customId with label := some label }

/-- a button that opens a page -/
def linkButton (label url : String) : Component := .button (.link label url)

/-- a menu from which one option is chosen -/
def stringSelect (customId placeholder : String) (options : List SelectOption) : Component :=
  .selectMenu { SelectMenu.new customId with
    placeholder := some placeholder, minValues := some 1, maxValues := some 1, options := options }

def text (content : String) : Component := .textDisplay (.new content)

end Component

/-- an input to put under a label -/
def TextInput.field (customId : String) (style : TextInputStyle) (required : Bool) : TextInput :=
  { TextInput.new customId style with required := some required }

namespace ModalComponent

def labelled (label : String) (component : ModalComponent) : ModalComponent := .label (.new label component)

end ModalComponent

end InteractionKit
