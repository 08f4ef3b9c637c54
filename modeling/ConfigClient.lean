import ConfigClient.Text
import ConfigClient.Double
import ConfigClient.Json
import ConfigClient.Value
import ConfigClient.Fault
import ConfigClient.HttpError
import ConfigClient.Text.UpperCase
import ConfigClient.Environment
import ConfigClient.HashSettings
import ConfigClient.Template
import ConfigClient.Headers
import ConfigClient.Text.Normal
import ConfigClient.Url.Domain.Mapping
import ConfigClient.Url.Domain
import ConfigClient.Url
import ConfigClient.Interaction
import ConfigClient.Client
import ConfigClient.TemplateClient
import ConfigClient.Text.Terminal
import ConfigClient.Log.Entry
import ConfigClient.Logger
import ConfigClient.Proofs.Digits
import ConfigClient.Proofs.Double.Whole
import ConfigClient.Proofs.Double.Decimal
import ConfigClient.Proofs.Exchange
import ConfigClient.Proofs.HttpError
import ConfigClient.Proofs.Fetch
import ConfigClient.Proofs.Failure
import ConfigClient.Proofs.Address
import ConfigClient.Proofs.HttpFailure
import ConfigClient.Proofs.ErrorCode
import ConfigClient.Proofs.Json.Quote
import ConfigClient.Proofs.Json.Tokens
import ConfigClient.Proofs.Json.RoundTrip
import ConfigClient.Proofs.Json.Number
import ConfigClient.Proofs.Json.WellFormed
import ConfigClient.Proofs.ServiceError
import ConfigClient.Proofs.ErrorBody
import ConfigClient.Proofs.Template
import ConfigClient.Proofs.Headers
import ConfigClient.Proofs.Headers.Given
import ConfigClient.Proofs.Reading
import ConfigClient.Proofs.Preparation
import ConfigClient.Proofs.Authorization
import ConfigClient.Proofs.RequestHeaders
import ConfigClient.Proofs.Outcome
import ConfigClient.Proofs.Agreement
import ConfigClient.Proofs.Search
import ConfigClient.Proofs.Project
import ConfigClient.Proofs.Secrecy
import ConfigClient.Proofs.Concurrent.Scene
import ConfigClient.Proofs.Concurrent.Ownership
import ConfigClient.Proofs.Concurrent.Standing
import ConfigClient.Proofs.Concurrent.Alone
import ConfigClient.Proofs.Conduct
import ConfigClient.Proofs.Concurrent.Progress
import ConfigClient.Proofs.Concurrent.Fetch
import ConfigClient.Proofs.Json.Orderly
import ConfigClient.Proofs.HttpError.Body
import ConfigClient.Proofs.HttpError.Written
import ConfigClient.Proofs.Trail
import ConfigClient.Proofs.Wrapping
import ConfigClient.Proofs.Diagnostics
import ConfigClient.Proofs.HashSettings
import ConfigClient.Proofs.Joints
import ConfigClient.Proofs.Session
import ConfigClient.Proofs.History
import ConfigClient.Proofs.Members
import ConfigClient.Proofs.Scheme
import ConfigClient.Proofs.Token
import ConfigClient.Text.Unicode
