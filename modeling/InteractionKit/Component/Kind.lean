/-
Kinds of components, by the number that stands for each on the wire.

Two families share the numbers: what a message may show, and what a modal may ask. Five of the kinds are select menus.
-/
namespace InteractionKit

/-- where a component is read: in a message or in a modal -/
inductive Family where
  | message
  | modal
deriving DecidableEq, Repr

def Family.name : Family → String
  | .message => "message"
  | .modal => "modal"

inductive ComponentKind where
  | actionRow
  | button
  | textSelectMenu
  | textInput
  | userSelectMenu
  | roleSelectMenu
  | mentionableSelectMenu
  | channelSelectMenu
  | section
  | textDisplay
  | thumbnail
  | mediaGallery
  | file
  | separator
  | container
  | label
  | fileUpload
deriving DecidableEq, Repr

/-- which entities a select menu offers -/
inductive MenuKind where
  | text
  | user
  | role
  | mentionable
  | channel
deriving DecidableEq, Repr

namespace ComponentKind

def code : ComponentKind → Nat
  | .actionRow => 1
  | .button => 2
  | .textSelectMenu => 3
  | .textInput => 4
  | .userSelectMenu => 5
  | .roleSelectMenu => 6
  | .mentionableSelectMenu => 7
  | .channelSelectMenu => 8
  | .section => 9
  | .textDisplay => 10
  | .thumbnail => 11
  | .mediaGallery => 12
  | .file => 13
  | .separator => 14
  | .container => 17
  | .label => 18
  | .fileUpload => 19

def ofCode? : Nat → Option ComponentKind
  | 1 => some .actionRow
  | 2 => some .button
  | 3 => some .textSelectMenu
  | 4 => some .textInput
  | 5 => some .userSelectMenu
  | 6 => some .roleSelectMenu
  | 7 => some .mentionableSelectMenu
  | 8 => some .channelSelectMenu
  | 9 => some .section
  | 10 => some .textDisplay
  | 11 => some .thumbnail
  | 12 => some .mediaGallery
  | 13 => some .file
  | 14 => some .separator
  | 17 => some .container
  | 18 => some .label
  | 19 => some .fileUpload
  | _ => none

def name : ComponentKind → String
  | .actionRow => "ActionRow"
  | .button => "Button"
  | .textSelectMenu => "TextSelectMenu"
  | .textInput => "TextInput"
  | .userSelectMenu => "UserSelectMenu"
  | .roleSelectMenu => "RoleSelectMenu"
  | .mentionableSelectMenu => "MentionableSelectMenu"
  | .channelSelectMenu => "ChannelSelectMenu"
  | .section => "Section"
  | .textDisplay => "TextDisplay"
  | .thumbnail => "Thumbnail"
  | .mediaGallery => "MediaGallery"
  | .file => "File"
  | .separator => "Separator"
  | .container => "Container"
  | .label => "Label"
  | .fileUpload => "FileUpload"

/-- whether a message may show the kind -/
def isMessage : ComponentKind → Bool
  | .label | .fileUpload => false
  | _ => true

/-- whether a modal may ask the kind -/
def isModal : ComponentKind → Bool
  | .actionRow | .label | .textInput | .textDisplay | .fileUpload => true
  | .textSelectMenu | .userSelectMenu | .roleSelectMenu | .mentionableSelectMenu | .channelSelectMenu => true
  | _ => false

/-- the menu that the kind stands for, if it is a select menu -/
def menu? : ComponentKind → Option MenuKind
  | .textSelectMenu => some .text
  | .userSelectMenu => some .user
  | .roleSelectMenu => some .role
  | .mentionableSelectMenu => some .mentionable
  | .channelSelectMenu => some .channel
  | _ => none

theorem ofCode?_code (k : ComponentKind) : ofCode? k.code = some k := by cases k <;> rfl

theorem code_of_ofCode? {n : Nat} {k : ComponentKind} (h : ofCode? n = some k) : k.code = n := by
  unfold ofCode? at h
  split at h <;> simp_all <;> subst h <;> rfl

end ComponentKind

namespace MenuKind

def componentKind : MenuKind → ComponentKind
  | .text => .textSelectMenu
  | .user => .userSelectMenu
  | .role => .roleSelectMenu
  | .mentionable => .mentionableSelectMenu
  | .channel => .channelSelectMenu

def name : MenuKind → String
  | .text => "Text"
  | .user => "User"
  | .role => "Role"
  | .mentionable => "Mentionable"
  | .channel => "Channel"

theorem menu?_componentKind (m : MenuKind) : m.componentKind.menu? = some m := by cases m <;> rfl

end MenuKind

end InteractionKit
