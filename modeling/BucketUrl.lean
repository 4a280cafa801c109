import BucketUrl.Main
import BucketUrl.Trail
import BucketUrl.Json.Reader
import BucketUrl.Json.Lemmas
import BucketUrl.Text.Lemmas
import BucketUrl.Text.Utf8.Lemmas
import BucketUrl.Escape.Lemmas
import BucketUrl.Proofs.Lowercase
import BucketUrl.Proofs.BucketName
import BucketUrl.Proofs.Authority
import BucketUrl.Proofs.PlainHost
import BucketUrl.Proofs.AbsoluteUri
import BucketUrl.Proofs.VersionQuery
import BucketUrl.Proofs.CanonicalUrl
import BucketUrl.Proofs.Recognition
import BucketUrl.Proofs.AmazonHost
import BucketUrl.Proofs.Layout
import BucketUrl.Proofs.RoundTrip
import BucketUrl.Proofs.WellFormed
import BucketUrl.Proofs.Agreement
import BucketUrl.Proofs.SameResource
import BucketUrl.Proofs.HostName
import BucketUrl.Proofs.AmazonReading
import BucketUrl.Proofs.AmazonDomain
import BucketUrl.Proofs.AzureHost
import BucketUrl.Proofs.Coherence
import BucketUrl.Proofs.HostSplit
import BucketUrl.Proofs.RebuiltUri
import BucketUrl.Proofs.ServiceLevel
import BucketUrl.Proofs.Decision
import BucketUrl.Proofs.Spelling
import BucketUrl.Proofs.HostSuffix
import BucketUrl.Proofs.DotlessHost
import BucketUrl.Proofs.Hostless
import BucketUrl.Proofs.NumericHost
import BucketUrl.Proofs.S3Scheme
import BucketUrl.Proofs.OutputLines
import BucketUrl.Proofs.JsonLines
import BucketUrl.Proofs.Trail
import BucketUrl.Proofs.TrailWords
import BucketUrl.Proofs.BucketGrammar
import BucketUrl.Proofs.AmazonGrammar
import BucketUrl.Proofs.AddressLevel
