import InteractionKit.Json.Compact
import InteractionKit.Json.Document
import InteractionKit.Component.Build
import InteractionKit.Component.Limits
import InteractionKit.Resolver
import InteractionKit.Router
import InteractionKit.Proofs.Json.RoundTrip
import InteractionKit.Proofs.Json.Normal
import InteractionKit.Proofs.Json.Ensures
import InteractionKit.Proofs.Guild.Parts
import InteractionKit.Proofs.Component.Normal
import InteractionKit.Proofs.Component.Parts
import InteractionKit.Proofs.Component.RoundTrip
import InteractionKit.Proofs.Component.Decoded
import InteractionKit.Proofs.Component.ReadBack
import InteractionKit.Proofs.Interaction.Resolved
import InteractionKit.Proofs.Interaction.Options
import InteractionKit.Proofs.Interaction.Data
import InteractionKit.Proofs.Interaction.RoundTrip
import InteractionKit.Proofs.Interaction.Texts
import InteractionKit.Proofs.Interaction.Selections
import InteractionKit.Proofs.Access.Layers
import InteractionKit.Proofs.Access.UnknownRoles
import InteractionKit.Proofs.Access.Owner
import InteractionKit.Proofs.Access.Order
import InteractionKit.Proofs.Access.Growth
import InteractionKit.Proofs.Access.Nameless
import InteractionKit.Proofs.Cache.Channels
import InteractionKit.Proofs.Cache.ChannelIndex
import InteractionKit.Proofs.Cache.Removal
import InteractionKit.Proofs.Cache.Memberships
import InteractionKit.Proofs.Cache.RoleBook
import InteractionKit.Proofs.Cache.ChannelAccess
import InteractionKit.Proofs.Cache.Streams
import InteractionKit.Proofs.Router.Colon
import InteractionKit.Proofs.Router.Registrations
import InteractionKit.Proofs.Router.Leading
import InteractionKit.Proofs.Cache.Redelivery
import InteractionKit.Proofs.Guild.RoundTrip
import InteractionKit.Proofs.Response.Forms
import InteractionKit.Proofs.Response.RoundTrip
import InteractionKit.Proofs.Router.Dispatch
import InteractionKit.Proofs.Json.Children
import InteractionKit.Proofs.Component.Layouts
import InteractionKit.Proofs.Component.Kinds
import InteractionKit.Proofs.Component.Nesting
import InteractionKit.Proofs.Component.ModalKinds
import InteractionKit.Proofs.Component.Limits
import InteractionKit.Proofs.Event.Payloads
import InteractionKit.Proofs.Json.Passing
import InteractionKit.Proofs.Interaction.DataByKind
import InteractionKit.Proofs.Guild.Ranks
import InteractionKit.Proofs.Interaction.Focus
import InteractionKit.Proofs.Permissions.Integers
import InteractionKit.Proofs.Id.Spellings
import InteractionKit.Proofs.Interaction.IntegerOption
import InteractionKit.Proofs.Resolver.Lookups
import InteractionKit.Proofs.Component.UnknownFields
import InteractionKit.Proofs.Interaction.Times
import InteractionKit.Proofs.Cache.WellKept
import InteractionKit.Proofs.Response.Steps
