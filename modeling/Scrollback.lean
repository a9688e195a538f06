import Scrollback.CommandLine.Program
import Scrollback.Main
import Scrollback.Proofs.Regex.Cursor
import Scrollback.Proofs.Search.Scanner
import Scrollback.Proofs.Regex.Runs
import Scrollback.Proofs.Search.TokenPattern
import Scrollback.Proofs.Search.TokenMatches
import Scrollback.Proofs.Search.Queries
import Scrollback.Proofs.Search.Separated
import Scrollback.Proofs.Search.Joined
import Scrollback.Proofs.Highlight.Answers
import Scrollback.Proofs.Highlight.Sources
import Scrollback.Proofs.Highlight.Sounds
import Scrollback.Proofs.Highlight.Colors
import Scrollback.Proofs.Highlight.Settled
import Scrollback.Proofs.History.Newest
import Scrollback.Proofs.Notification.Suppression
import Scrollback.Proofs.Search.Sessions
import Scrollback.Proofs.Notification.Delivery
import Scrollback.Proofs.Notification.Keys
import Scrollback.Proofs.Search.Clauses
import Scrollback.Proofs.Config.Addresses
import Scrollback.Proofs.Url.Files
import Scrollback.Proofs.CommandLine.Warnings
import Scrollback.Proofs.History.Records
import Scrollback.Proofs.CommandLine.Runs
import Scrollback.Proofs.Json.Steady
import Scrollback.Proofs.Json.Rounds
import Scrollback.Proofs.Message.Padding
import Scrollback.Proofs.History.Lines
import Scrollback.Proofs.CommandLine.Readings
import Scrollback.Proofs.CommandLine.Searches
import Scrollback.Proofs.CommandLine.Listings
import Scrollback.Proofs.Json.Grammar
import Scrollback.Proofs.Json.Written
import Scrollback.Proofs.Json.Passing
import Scrollback.Proofs.Time.Spelled
import Scrollback.Proofs.Message.Renderings
import Scrollback.Proofs.Regex.Answers
import Scrollback.Proofs.Regex.Escaped
import Scrollback.Proofs.Highlight.WordPattern
import Scrollback.Proofs.Highlight.WordMatches
import Scrollback.Proofs.Highlight.UserNames
import Scrollback.Proofs.Config.Cuts
import Scrollback.Proofs.Config.Breaks
import Scrollback.Proofs.Highlight.Marks
import Scrollback.Proofs.Search.Words
import Scrollback.Proofs.Search.EmptyValues
import Scrollback.Proofs.Unicode.Sigmas
import Scrollback.Proofs.Search.Substrings
import Scrollback.Proofs.Highlight.Standing
import Scrollback.Proofs.Highlight.SoundUrls
import Scrollback.Proofs.Notification.Memory
import Scrollback.Proofs.Notification.Retold
import Scrollback.Proofs.Text.Blanks
import Scrollback.Proofs.Text.Names
import Scrollback.Proofs.Regex.Places
import Scrollback.Proofs.Ignore.Channels
import Scrollback.Proofs.Ignore.Entries
import Scrollback.Proofs.Ignore.Chains
import Scrollback.Proofs.Search.Namesakes
import Scrollback.Proofs.Color.Digits
import Scrollback.Proofs.Message.Badges
import Scrollback.Proofs.Message.BadgeMatches
import Scrollback.Proofs.Unicode.Foldings
import Scrollback.Proofs.Link.Pattern
import Scrollback.Proofs.Link.Scanner
import Scrollback.Proofs.Link.Matches
import Scrollback.Proofs.Url.Web
import Scrollback.Proofs.Link.Schemes
import Scrollback.Proofs.Link.Breaks
import Scrollback.Proofs.Link.Bare
import Scrollback.Proofs.Link.Trailing
import Scrollback.Proofs.Search.FlagNames
import Scrollback.Proofs.Search.Equality
import Scrollback.Proofs.CommandLine.OutputLines
import Scrollback.Proofs.Config.Held
import Scrollback.Proofs.Config.RuleForms
import Scrollback.Proofs.Config.Refusals
