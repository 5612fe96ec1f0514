import SocksRouter.Address.Block
import SocksRouter.Address.Numeric
import SocksRouter.Cli.Commands
import SocksRouter.Console.Markup
import SocksRouter.Console.Table
import SocksRouter.Country.Database
import SocksRouter.Engine.Eager
import SocksRouter.Engine.Loading
import SocksRouter.Engine.Operation
import SocksRouter.Fault
import SocksRouter.File
import SocksRouter.Idna.Label
import SocksRouter.Log.Sink
import SocksRouter.Log.Trace
import SocksRouter.Main
import SocksRouter.ProjectVersion
import SocksRouter.Proofs.Address.Partition
import SocksRouter.Proofs.Cli.Listing
import SocksRouter.Proofs.Engine.Decision
import SocksRouter.Proofs.Engine.Laziness
import SocksRouter.Proofs.Engine.Reload
import SocksRouter.Proofs.Engine.Search
import SocksRouter.Proofs.Engine.Spelling
import SocksRouter.Proofs.Engine.Standstill
import SocksRouter.Proofs.Name.Stages
import SocksRouter.Proofs.Rule.Account
import SocksRouter.Proofs.Socks.Answer
import SocksRouter.Proofs.Socks.Approach
import SocksRouter.Proofs.Socks.Chain
import SocksRouter.Proofs.Socks.Cutting
import SocksRouter.Proofs.Socks.Delivery
import SocksRouter.Proofs.Socks.ForwardProxy
import SocksRouter.Proofs.Socks.History
import SocksRouter.Proofs.Socks.Inquiry
import SocksRouter.Proofs.Socks.Literal
import SocksRouter.Proofs.Socks.Release
import SocksRouter.Proofs.Socks.Rounds
import SocksRouter.Proofs.Socks.Settling
import SocksRouter.Proofs.Socks.Standing
import SocksRouter.Proofs.Socks.Turns
import SocksRouter.Proofs.Socks.Upstream
import SocksRouter.Proofs.Wire.Cutting
import SocksRouter.Proofs.Wire.Gathering
import SocksRouter.Rule.Config
import SocksRouter.Server
import SocksRouter.Socks.ForwardProxy
import SocksRouter.Socks.Registry
import SocksRouter.Socks.Relay
import SocksRouter.Socks.Request
import SocksRouter.Socks.Serving
import SocksRouter.Socks.Tunnel
import SocksRouter.Text.Blank
import SocksRouter.Text.Digits
import SocksRouter.Text.Fields
import SocksRouter.Text.Lines
import SocksRouter.Text.Lowercase
import SocksRouter.Text.Quoted
import SocksRouter.Text.Utf8
import SocksRouter.Toml.Document
