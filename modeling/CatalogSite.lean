import CatalogSite.Catalog.Filter
import CatalogSite.Catalog.Game
import CatalogSite.Catalog.Query
import CatalogSite.Catalog.Store
import CatalogSite.Config
import CatalogSite.Content.GamePage
import CatalogSite.Content.Provider
import CatalogSite.Content.SearchPage
import CatalogSite.Content.Shell
import CatalogSite.Content.Visit
import CatalogSite.Cookie
import CatalogSite.Definition
import CatalogSite.Dictionary
import CatalogSite.Failure
import CatalogSite.Files.Path
import CatalogSite.Files.Tree
import CatalogSite.Http.MediaType
import CatalogSite.Http.Request
import CatalogSite.Http.Response
import CatalogSite.Http.Target
import CatalogSite.Json.Basic
import CatalogSite.Json.Decode
import CatalogSite.Json.Number
import CatalogSite.Json.Reader
import CatalogSite.Json.Writer
import CatalogSite.Locale.Choice
import CatalogSite.Locale.Registry
import CatalogSite.Main
import CatalogSite.Number.Binary64
import CatalogSite.Number.Shortest
import CatalogSite.Preview.Command
import CatalogSite.Preview.EnvironmentFile
import CatalogSite.Preview.Files
import CatalogSite.Route.Access
import CatalogSite.Route.Table
import CatalogSite.Route.Target
import CatalogSite.Server.Places
import CatalogSite.Server.Run
import CatalogSite.Server.Schedule
import CatalogSite.Server.State
import CatalogSite.Setup
import CatalogSite.Site.Answer
import CatalogSite.Site.Basic
import CatalogSite.Site.Handler
import CatalogSite.Site.Load
import CatalogSite.Site.Routing
import CatalogSite.Template.Element
import CatalogSite.Template.Expansion
import CatalogSite.Template.Parameter
import CatalogSite.Template.Render
import CatalogSite.Template.Store
import CatalogSite.Text.Blank
import CatalogSite.Text.CaseData
import CatalogSite.Text.Escape
import CatalogSite.Text.Lowercase
import CatalogSite.Text.Substring
import CatalogSite.Text.Utf8
import CatalogSite.Timestamp
import CatalogSite.Url.Address
import CatalogSite.Url.Basic
import CatalogSite.Url.Direction
import CatalogSite.Url.Domain
import CatalogSite.Url.DomainData
import CatalogSite.Url.DomainRow
import CatalogSite.Url.Error
import CatalogSite.Url.Form
import CatalogSite.Url.Parse
import CatalogSite.Url.Percent
import CatalogSite.Url.Punycode
import CatalogSite.Proofs.Dictionary.Lookup
import CatalogSite.Proofs.Template.Dependence
import CatalogSite.Proofs.Template.Inert
import CatalogSite.Proofs.Template.SlotGrammar
import CatalogSite.Proofs.Site.Assembled
import CatalogSite.Proofs.Template.SlotReading
import CatalogSite.Proofs.Content.HiddenGames
import CatalogSite.Proofs.Content.GameMarkup
import CatalogSite.Proofs.Files.Location
import CatalogSite.Proofs.Template.Loading
import CatalogSite.Proofs.Site.Targets
import CatalogSite.Proofs.Site.StaticFiles
import CatalogSite.Proofs.Site.Loaded
import CatalogSite.Proofs.Site.Faultless
import CatalogSite.Proofs.Site.NothingFound
import CatalogSite.Proofs.Site.FaultDetail
import CatalogSite.Proofs.Cookie.Header
import CatalogSite.Proofs.Locale.Completion
import CatalogSite.Proofs.Text.Trim
import CatalogSite.Proofs.Site.Outcomes
import CatalogSite.Proofs.Locale.Remembered
import CatalogSite.Proofs.Server.HeldSites
import CatalogSite.Proofs.Server.CatalogRuns
import CatalogSite.Proofs.Catalog.Opening
import CatalogSite.Proofs.Site.EndpointAnswers
import CatalogSite.Proofs.Site.Failing
import CatalogSite.Proofs.Site.Headers
import CatalogSite.Proofs.Url.WebAddress
import CatalogSite.Proofs.Http.HostField
import CatalogSite.Proofs.Url.PercentText
import CatalogSite.Proofs.Url.WrittenPath
import CatalogSite.Proofs.Site.FileAddresses
import CatalogSite.Proofs.Text.FirstSeparator
import CatalogSite.Proofs.Site.SiteUse
import CatalogSite.Proofs.Template.BaseText
import CatalogSite.Proofs.Template.Meaning
import CatalogSite.Proofs.Template.Concatenation
import CatalogSite.Proofs.Template.SecondPass
import CatalogSite.Proofs.Content.CreatorLine
import CatalogSite.Proofs.Catalog.Selection
import CatalogSite.Proofs.Catalog.Ranking
import CatalogSite.Proofs.Catalog.Narrowing
import CatalogSite.Proofs.Text.LowercaseParts
import CatalogSite.Proofs.Text.Words
import CatalogSite.Proofs.Catalog.LiteralParts
import CatalogSite.Proofs.Catalog.TitleSearch
import CatalogSite.Proofs.Catalog.Strictness
import CatalogSite.Proofs.Catalog.WordSearch
import CatalogSite.Proofs.Content.LogoAddresses
import CatalogSite.Proofs.Content.ResultMarkup
import CatalogSite.Proofs.Template.ElementReference
import CatalogSite.Proofs.Text.Pieces
import CatalogSite.Proofs.Route.Segments
import CatalogSite.Proofs.Site.PaddedPaths
import CatalogSite.Proofs.Text.AsciiCase
import CatalogSite.Proofs.Text.CaseBlind
import CatalogSite.Proofs.Url.HostSpelling
import CatalogSite.Proofs.Preview.AccessHosts
import CatalogSite.Proofs.Catalog.Platforms
import CatalogSite.Proofs.Text.ByteReading
import CatalogSite.Proofs.Url.FormText
import CatalogSite.Proofs.Preview.Language
import CatalogSite.Template.StoreRun
import CatalogSite.Proofs.Template.StoreRuns
import CatalogSite.DefinitionStep
import CatalogSite.Template.ReferenceSearch
import CatalogSite.Proofs.Catalog.TimeLine
import CatalogSite.Proofs.Text.Entities
import CatalogSite.Proofs.Template.LookAhead
import CatalogSite.Proofs.Template.ReferenceSlices
import CatalogSite.Proofs.Dictionary.Layers
import CatalogSite.Proofs.Dictionary.FiniteMap
