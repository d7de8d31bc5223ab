import DocLinks.Batch
import DocLinks.Disk
import DocLinks.Options.Config
import DocLinks.Proofs.Anchor.Heading
import DocLinks.Proofs.Batch.ReadBack
import DocLinks.Proofs.Batch.Schedule
import DocLinks.Proofs.Markdown.Links
import DocLinks.Proofs.Markdown.PlainText
import DocLinks.Proofs.Options.Config
import DocLinks.Proofs.Path.Canonical
import DocLinks.Proofs.Path.Join
import DocLinks.Proofs.Slug.Canonical
import DocLinks.Proofs.Slug.Casing
import DocLinks.Proofs.Slug.Counters
import DocLinks.Proofs.Url.Relative
import DocLinks.Proofs.Verify.Calls
import DocLinks.Proofs.Verify.Containment
import DocLinks.Proofs.Verify.FileError
import DocLinks.Proofs.Verify.FileType
import DocLinks.Proofs.Verify.LineLink
import DocLinks.Proofs.Verify.Spelling
